import OpenDocs.Proofs.Encoding.Truncation
import OpenDocs.Proofs.Program.Ranges

/-!
# Columns in bytes and in code points

A byte column of a line stands for the number of code points that end at or before it. If the line's
UTF-8 is cut there and the flaw at the cut is skipped, just these code points are read.
-/

namespace OpenDocs.Program

open Encoding

theorem columnOf_le_length (line : List Char) (byte : Nat) : columnOf line byte ≤ line.length := by
  induction line generalizing byte with
  | nil => exact Nat.le_refl 0
  | cons c line ih =>
    rw [columnOf]
    split
    · exact Nat.succ_le_succ (ih _)
    · exact Nat.zero_le _

/-- So many code points do not take more bytes. -/
theorem length_encode_take_columnOf (line : List Char) (byte : Nat) :
    (Utf8.encode (line.take (columnOf line byte))).length ≤ byte := by
  induction line generalizing byte with
  | nil => exact Nat.zero_le _
  | cons c line ih =>
    rw [columnOf]
    split
    · next fits =>
      have rest := ih (byte - c.utf8Size)
      rw [List.take_succ_cons, Utf8.encode_cons, List.length_append, Utf8.length_encodeChar]
      omega
    · exact Nat.zero_le _

theorem columnOf_length_encode {line : List Char} {k : Nat} (within : k ≤ line.length) :
    columnOf line (Utf8.encode (line.take k)).length = k := by
  have column := columnOf_append (line.take k) (line.drop k)
  rwa [List.take_append_drop, ← Utf8.length_encode, List.length_take_of_le within] at column

theorem columnOf_isGreatest (line : List Char) (byte : Nat) :
    IsGreatest {k | k ≤ line.length ∧ (Utf8.encode (line.take k)).length ≤ byte}
      (columnOf line byte) := by
  refine ⟨⟨columnOf_le_length line byte, length_encode_take_columnOf line byte⟩, ?_⟩
  intro k ⟨within, fits⟩
  calc
    k = columnOf line (Utf8.encode (line.take k)).length := (columnOf_length_encode within).symm
    _ ≤ columnOf line byte := columnOf_mono line fits

/-- A line that is cut is read up to the column. The first character is there as a whole, and is
then read whatever follows, or what is there of it is skipped. -/
theorem decode_skip_take_encode (line : List Char) (byte position : Nat) :
    Utf8.codec.decode .skip position ((Utf8.encode line).take byte) =
      .ok (line.take (columnOf line byte)) := by
  induction line generalizing byte position with
  | nil =>
    rw [show Utf8.encode [] = [] from rfl, List.take_nil, List.take_nil]
    exact Codec.decode_nil
  | cons c line ih =>
    rw [Utf8.encode_cons, columnOf]
    by_cases whole : c.utf8Size ≤ byte
    · obtain ⟨behind, step⟩ := Utf8.reads.exists_decode .skip position c
        ((Utf8.encode line).take (byte - c.utf8Size))
      rw [if_pos whole, List.take_append, List.take_of_length_le (by rwa [Utf8.length_encodeChar]),
        Utf8.length_encodeChar, step, ih]
      rfl
    · have short : byte < (Utf8.encodeChar c).length := by
        rw [Utf8.length_encodeChar]
        exact Nat.lt_of_not_le whole
      rw [if_neg whole, List.take_append_of_le_length (Nat.le_of_lt short)]
      exact Utf8.decode_skip_take_encodeChar c short position

/-- A byte column becomes the greatest number of code points that fit before it. They are what the
line's UTF-8 up to there is read as. Where a code point ends, they are all those up to it; further
bytes add to them; and a line that is not there has none. -/
theorem character_positionOf (lines : List (List Char)) (p : Place) :
    let line := lines[p.line]?.getD []
    let k := (positionOf lines p).character
    IsGreatest {j | j ≤ line.length ∧ (Utf8.encode (line.take j)).length ≤ p.byte} k ∧
      Utf8.codec.decode .skip 0 ((Utf8.encode line).take p.byte) = .ok (line.take k) ∧
      (∀ j ≤ line.length, p.byte = (Utf8.encode (line.take j)).length → k = j) ∧
      (∀ q : Place, q.line = p.line → p.byte ≤ q.byte → k ≤ (positionOf lines q).character) ∧
      (lines.length ≤ p.line → k = 0) := by
  intro line k
  refine ⟨columnOf_isGreatest line p.byte, decode_skip_take_encode line p.byte 0, ?_, ?_, ?_⟩
  · intro j within exactly
    change columnOf line p.byte = j
    rw [exactly, columnOf_length_encode within]
  · intro q same further
    change columnOf line p.byte ≤ columnOf (lines[q.line]?.getD []) q.byte
    rw [same]
    exact columnOf_mono line further
  · intro outside
    change columnOf (lines[p.line]?.getD []) p.byte = 0
    rw [List.getElem?_eq_none outside]
    rfl

/-- Code points of one to four bytes, cut within each of the longer ones. -/
theorem character_positionOf_within_code_points :
    let lines := [['x'], ['a', 'é', '€', '😀', 'b']]
    (positionOf lines ⟨1, 2⟩).character = 1 ∧ (positionOf lines ⟨1, 3⟩).character = 2 ∧
      2 ≤ (positionOf lines ⟨1, 5⟩).character ∧
      Utf8.codec.decode .skip 0 ((Utf8.encode ['a', 'é', '€', '😀', 'b']).take 9) =
        .ok ['a', 'é', '€'] ∧
      (positionOf lines ⟨1, 9⟩).character ≤ (positionOf lines ⟨1, 99⟩).character ∧
      (positionOf lines ⟨2, 1⟩).character = 0 := by
  intro lines
  refine ⟨?_, ?_, ?_, ?_, ?_, ?_⟩
  · decide
  · exact (character_positionOf lines ⟨1, 3⟩).2.2.1 2 (by decide) (by decide)
  · exact (character_positionOf lines ⟨1, 5⟩).1.2 ⟨by decide, by decide⟩
  · exact (character_positionOf lines ⟨1, 9⟩).2.1
  · exact (character_positionOf lines ⟨1, 9⟩).2.2.2.1 ⟨1, 99⟩ rfl (by decide)
  · exact (character_positionOf lines ⟨2, 1⟩).2.2.2.2 (by decide)

end OpenDocs.Program
