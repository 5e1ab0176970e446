import OpenDocs.Proofs.Edit.Outcome
import OpenDocs.Proofs.Text.Walk

/-!
# What an edit leaves alone

Before the replaced span every offset stands where it stood, although the break at the seam may be
another one afterwards. Behind the span all lines are moved by as many as the text has more or less,
and columns stay but on the line of the seam.
-/

namespace OpenDocs

namespace Text

/-- The text with the code points from `start` to `stop` replaced. -/
def splice (t : List Char) (start stop : Nat) (x : List Char) : List Char :=
  t.take start ++ x ++ t.drop stop

variable {t x : List Char} {start stop : Nat}

theorem take_splice {n : Nat} (before : n ≤ start) (inside : start ≤ t.length) :
    (splice t start stop x).take n = t.take n := by
  have bound : n ≤ (t.take start).length := by
    rw [List.length_take]
    omega
  rw [splice, List.append_assoc, List.take_append_of_le_length bound, List.take_take,
    Nat.min_eq_left before]

theorem drop_splice (n : Nat) (inside : start ≤ t.length) :
    (splice t start stop x).drop (start + x.length + n) = t.drop (stop + n) := by
  have front : (t.take start ++ x).length = start + x.length := by
    rw [List.length_append, List.length_take, Nat.min_eq_left inside]
  rw [splice, ← front, ← List.drop_drop, List.drop_left, List.drop_drop]

theorem length_splice (ordered : start ≤ stop) (inside : stop ≤ t.length) :
    (splice t start stop x).length + stop = start + x.length + t.length := by
  rw [splice, List.length_append, List.length_append, List.length_take, List.length_drop]
  omega

theorem positionAt_splice_before {n : Nat} (before : n < start) (inside : start ≤ t.length) :
    positionAt (splice t start stop x) n = positionAt t n :=
  positionAt_congr (take_splice before inside)

theorem offsetOf_splice_before {n : Nat} {q : Position} (before : n < start) (ordered : start ≤ stop)
    (inside : stop ≤ t.length) :
    offsetOf (splice t start stop x) q = .ok n ↔ offsetOf t q = .ok n := by
  have length := length_splice (x := x) ordered inside
  exact offsetOf_congr (take_splice before (by omega)) (by omega) (by omega)

theorem line_splice_behind {n : Nat} (ordered : start ≤ stop) (inside : stop + n ≤ t.length) :
    (positionAt (splice t start stop x) (start + x.length + n)).line + lineCount t =
      (positionAt t (stop + n)).line + lineCount (splice t start stop x) := by
  have length := length_splice (t := t) (x := x) ordered (by omega)
  have before := lineCount_eq_add_drop inside
  have after := lineCount_eq_add_drop (t := splice t start stop x) (n := start + x.length + n)
    (by omega)
  have low : start ≤ t.length := by omega
  rw [drop_splice n low] at after
  omega

theorem character_splice_behind {n : Nat} (inside : start ≤ t.length)
    (later : (positionAt t stop).line < (positionAt t (stop + n)).line) :
    (positionAt (splice t start stop x) (start + x.length + n)).character =
      (positionAt t (stop + n)).character := by
  have same : (splice t start stop x).drop (start + x.length) = t.drop stop := drop_splice 0 inside
  rw [positionAt_add t stop n, Position.advance_line] at later
  have below : 0 < (positionAt (t.drop stop) n).line := by omega
  rw [positionAt_add t stop n, positionAt_add _ (start + x.length) n, same,
    Position.advance_character_of_pos below, Position.advance_character_of_pos below]

/-- Positions in `u` against those in `t`, when what stands from `start` to `stop` was replaced and
all behind it was moved by `shift`. -/
structure KeepsPlaces (t u : List Char) (start stop : Nat) (shift : Int) : Prop where
  located : ∀ n : Nat, n < start → ∃ p, locate t (.whole n) = .ok p ∧ locate u (.whole n) = .ok p
  resolved : ∀ n : Nat, n < start → ∀ q, offsetOf t q = .ok n ↔ offsetOf u q = .ok n
  /-- Lines are counted from the end of the text as before. -/
  lines : ∀ n : Nat, stop ≤ n → n ≤ t.length → ∃ p r, locate t (.whole n) = .ok p ∧
    locate u (.whole (n + shift)) = .ok r ∧
    (r.line : Int) - p.line = (lineCount u : Int) - lineCount t
  /-- On the lines below the one where the span ends, columns are kept. -/
  columns : ∀ n : Nat, stop ≤ n → ∀ seam p r, locate t (.whole stop) = .ok seam →
    locate t (.whole n) = .ok p → locate u (.whole (n + shift)) = .ok r → seam.line < p.line →
    r.character = p.character

theorem splice_keepsPlaces (ordered : start ≤ stop) (inside : stop ≤ t.length) :
    KeepsPlaces t (splice t start stop x) start stop (x.length - ((stop : Int) - start)) := by
  have length := length_splice (x := x) ordered inside
  have moved (k : Nat) : ((stop + k : Nat) : Int) + (x.length - ((stop : Int) - start)) =
      (start + x.length + k : Nat) := by omega
  refine ⟨?_, ?_, ?_, ?_⟩
  · intro n before
    refine ⟨positionAt t n, locate_natCast_eq_ok_iff.mpr ⟨by omega, rfl⟩,
      locate_natCast_eq_ok_iff.mpr ⟨by omega, ?_⟩⟩
    exact positionAt_splice_before before (by omega)
  · intro n before q
    exact (offsetOf_splice_before before ordered inside).symm
  · intro n behind within
    obtain ⟨k, rfl⟩ := Nat.exists_eq_add_of_le behind
    have counted := line_splice_behind (x := x) ordered within
    rw [moved]
    exact ⟨_, _, locate_natCast_eq_ok_iff.mpr ⟨within, rfl⟩,
      locate_natCast_eq_ok_iff.mpr ⟨by omega, rfl⟩, by omega⟩
  · intro n behind seam p r atSeam before after below
    obtain ⟨k, rfl⟩ := Nat.exists_eq_add_of_le behind
    rw [moved] at after
    obtain ⟨_, rfl⟩ := locate_natCast_eq_ok_iff.mp atSeam
    obtain ⟨_, rfl⟩ := locate_natCast_eq_ok_iff.mp before
    obtain ⟨_, rfl⟩ := locate_natCast_eq_ok_iff.mp after
    exact character_splice_behind (by omega) below

end Text

namespace Edit

open Text

/-- An edit that is made keeps the places before its range, and those behind it up to the number of
lines and the columns of the line where the range ends. -/
theorem apply_local (t u : List Char) (e : Edit) (applied : e.apply t = .ok u) :
    ∃ start stop, offsetOf t e.range.start = .ok start ∧ offsetOf t e.range.stop = .ok stop ∧
      start ≤ stop ∧
      KeepsPlaces t u start stop (e.replacement.length - ((stop : Int) - start)) := by
  obtain ⟨start, stop, first, second, result⟩ := apply_eq_ok_iff.mp applied
  have ordered := offset_le_of_le e.range.start_le_stop first second
  have kept := splice_keepsPlaces (x := e.replacement) ordered (offset_le_length second)
  exact ⟨start, stop, first, second, ordered, result ▸ kept⟩

/-- A line feed put behind a carriage return makes one break of the two, and the last lines move up. -/
theorem apply_local_at_joined_break :
    (⟨⟨⟨1, 0⟩, ⟨2, 0⟩, by decide⟩, ['\n']⟩ : Edit).apply ['a', '\r', 'b', '\r', 'c', '\n'] =
      .ok ['a', '\r', '\n', 'c', '\n'] ∧
    ∃ start stop, offsetOf ['a', '\r', 'b', '\r', 'c', '\n'] ⟨1, 0⟩ = .ok start ∧
      offsetOf ['a', '\r', 'b', '\r', 'c', '\n'] ⟨2, 0⟩ = .ok stop ∧ start ≤ stop ∧
      KeepsPlaces ['a', '\r', 'b', '\r', 'c', '\n'] ['a', '\r', '\n', 'c', '\n'] start stop
        (1 - ((stop : Int) - start)) :=
  ⟨rfl, apply_local _ _ ⟨⟨⟨1, 0⟩, ⟨2, 0⟩, by decide⟩, ['\n']⟩ rfl⟩

end Edit

end OpenDocs
