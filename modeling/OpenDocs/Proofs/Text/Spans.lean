import OpenDocs.Proofs.Text.Carets

/-!
# What lies between two positions

The columns before the break of a line are places of the text, from the start of the line to the end
of its content. What lies between two positions is found by their offsets, and a pair of positions
that is inside another stays inside it.
-/

namespace OpenDocs.Text

/-- What lies from the position `p` to the position `q` lies from offset `a` to offset `b`. -/
structure Spans (t : List Char) (p q : Position) (a b : Nat) : Prop where
  start : offsetOf t p = .ok a
  stop : offsetOf t q = .ok b

namespace Spans

variable {t : List Char} {p q p' q' : Position} {a b a' b' : Nat}

theorem ordered (spans : Spans t p q a b) (order : p ≤ q) : a ≤ b :=
  offset_le_of_le order spans.start spans.stop

theorem stop_le_length (spans : Spans t p q a b) : b ≤ t.length := offset_le_length spans.stop

theorem within (outer : Spans t p q a b) (inner : Spans t p' q' a' b') (after : p ≤ p')
    (before : q' ≤ q) : a ≤ a' ∧ b' ≤ b :=
  ⟨offset_le_of_le after outer.start inner.start, offset_le_of_le before inner.stop outer.stop⟩

end Spans

/-! ### Columns on a line -/

theorem getElem?_lineTexts (t : List Char) (index : Nat) :
    (lineTexts t)[index]? = (lines t)[index]?.map (·.chars t) := List.getElem?_map

theorem length_lineTexts (t : List Char) : (lineTexts t).length = (lines t).length :=
  List.length_map _

variable {t : List Char} {index : Nat} {l : Line}

theorem length_chars (found : (lines t)[index]? = some l) : (l.chars t).length = l.length := by
  have inside := (lines_tiles t).next_le_stop found
  simp only [Line.next, Line.width] at inside
  rw [Line.chars, List.length_take, List.length_drop]
  omega

theorem offsetOf_column (found : (lines t)[index]? = some l) {column : Nat}
    (within : column ≤ (l.chars t).length) :
    offsetOf t ⟨index, column⟩ = .ok (l.start + column) := by
  rw [length_chars found] at within
  exact resolve_eq_ok_iff.mpr ⟨l, found, Nat.le_add_right_of_le within, rfl⟩

end OpenDocs.Text
