import OpenDocs.Proofs.Edit.BottomUp

/-!
# Taking an edit back

Where the replacement begins and ends in the new text there are positions, in this order, whatever
breaks were joined or parted at the seams. The edit of the range between them that puts the old text
there again makes the text what it was.
-/

namespace OpenDocs

namespace Text

variable {t x : List Char} {start stop : Nat}

theorem positionAt_le_positionAt {a b : Nat} (ordered : a ≤ b) (inside : b ≤ t.length) :
    positionAt t a ≤ positionAt t b :=
  (le_positionAt_iff inside (offsetOf_positionAt (Nat.le_trans ordered inside))).mpr ordered

theorem splice_slice (ordered : start ≤ stop) : splice t start stop (slice t start stop) = t := by
  rw [splice, take_append_slice ordered, List.take_append_drop]

/-- The replacement stands where it was put, and around it is what was there before. -/
theorem splice_splice (inside : start ≤ t.length) (y : List Char) :
    splice (splice t start stop x) start (start + x.length) y = splice t start stop y := by
  have before : (splice t start stop x).take start = t.take start :=
    take_splice (Nat.le_refl start) inside
  have behind : (splice t start stop x).drop (start + x.length) = t.drop stop :=
    drop_splice 0 inside
  rw [splice, before, behind, splice]

end Text

namespace Edit

open Text

/-- Between any two offsets of a text there is a range, and an edit of it replaces what stands
between them. -/
theorem exists_apply_between {t : List Char} {a b : Nat} (ordered : a ≤ b) (inside : b ≤ t.length)
    (x : List Char) :
    ∃ r, Range.make (positionAt t a) (positionAt t b) = .ok r ∧
      (⟨r, x⟩ : Edit).apply t = .ok (splice t a b x) := by
  let r : Range := ⟨positionAt t a, positionAt t b, positionAt_le_positionAt ordered inside⟩
  refine ⟨r, Range.make_eq_ok_iff.mpr ⟨r.start_le_stop, rfl, rfl⟩, ?_⟩
  exact apply_eq_ok_iff.mpr ⟨a, b, offsetOf_positionAt (Nat.le_trans ordered inside),
    offsetOf_positionAt inside, rfl⟩

/-- An edit that is made is taken back by the edit of the range that the replacement has in the new
text, with what the old text has between the offsets of the edit. To put that into the old text
itself changes nothing. -/
theorem apply_undo (t u : List Char) (e : Edit) (applied : e.apply t = .ok u) :
    ∃ start stop, offsetOf t e.range.start = .ok start ∧ offsetOf t e.range.stop = .ok stop ∧
      start ≤ stop ∧
      (∃ p q r, locate u (.whole start) = .ok p ∧
        locate u (.whole (start + e.replacement.length)) = .ok q ∧ Range.make p q = .ok r ∧
        (⟨r, slice t start stop⟩ : Edit).apply u = .ok t) ∧
      (⟨e.range, slice t start stop⟩ : Edit).apply t = .ok t := by
  obtain ⟨start, stop, first, second, result⟩ := apply_eq_ok_iff.mp applied
  change u = splice t start stop e.replacement at result
  have ordered := offset_le_of_le e.range.start_le_stop first second
  have inside := offset_le_length second
  refine ⟨start, stop, first, second, ordered, ?_, ?_⟩
  · have length : u.length + stop = start + e.replacement.length + t.length :=
      result ▸ length_splice ordered inside
    have within : start + e.replacement.length ≤ u.length := by omega
    obtain ⟨r, made, undone⟩ := exists_apply_between (Nat.le_add_right start e.replacement.length)
      within (slice t start stop)
    refine ⟨_, _, r, locate_natCast_eq_ok_iff.mpr ⟨by omega, rfl⟩, ?_, made, ?_⟩
    · exact_mod_cast locate_natCast_eq_ok_iff.mpr ⟨within, rfl⟩
    · rw [undone, result, splice_splice (Nat.le_trans ordered inside), splice_slice ordered]
  · exact apply_eq_ok_iff.mpr ⟨start, stop, first, second, (splice_slice ordered).symm⟩

/-- Where the line between a carriage return and a line feed is taken out, these two are one break,
and the empty replacement has its caret inside it. Putting the line there parts them again. -/
theorem apply_undo_inside_break :
    (⟨⟨⟨1, 0⟩, ⟨1, 1⟩, by decide⟩, []⟩ : Edit).apply ['a', '\r', 'b', '\n', 'c'] =
      .ok ['a', '\r', '\n', 'c'] ∧
    ∃ start stop, offsetOf ['a', '\r', 'b', '\n', 'c'] ⟨1, 0⟩ = .ok start ∧
      offsetOf ['a', '\r', 'b', '\n', 'c'] ⟨1, 1⟩ = .ok stop ∧ start ≤ stop ∧
      (∃ p q r, locate ['a', '\r', '\n', 'c'] (.whole start) = .ok p ∧
        locate ['a', '\r', '\n', 'c'] (.whole (start + 0)) = .ok q ∧ Range.make p q = .ok r ∧
        (⟨r, slice ['a', '\r', 'b', '\n', 'c'] start stop⟩ : Edit).apply ['a', '\r', '\n', 'c'] =
          .ok ['a', '\r', 'b', '\n', 'c']) ∧
      (⟨⟨⟨1, 0⟩, ⟨1, 1⟩, by decide⟩, slice ['a', '\r', 'b', '\n', 'c'] start stop⟩ : Edit).apply
        ['a', '\r', 'b', '\n', 'c'] = .ok ['a', '\r', 'b', '\n', 'c'] :=
  ⟨rfl, apply_undo _ _ ⟨⟨⟨1, 0⟩, ⟨1, 1⟩, by decide⟩, []⟩ rfl⟩

end Edit

end OpenDocs
