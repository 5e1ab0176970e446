import OpenDocs.Text.Cut
import Mathlib

/-!
# Decimal digits

A number can be read back from its digits, and its digits hold no mark that is not a digit.
-/

namespace OpenDocs

theorem not_mem_toDigits {mark : Char} (other : mark.isDigit = false) (n : Nat) :
    mark ∉ Nat.toDigits 10 n := by
  intro held
  have digit := Nat.isDigit_of_mem_toDigits (by decide) (by decide) held
  rw [other] at digit
  cases digit

theorem toDigits_inj {m n : Nat} (same : Nat.toDigits 10 m = Nat.toDigits 10 n) : m = n := by
  have read := congrArg (fun cs => Nat.ofDigitChars 10 cs 0) same
  simpa only [Nat.ofDigitChars_ten_toDigits] using read

/-- A number can be read off a text up to a mark that is no digit. -/
theorem toDigits_append_mark_inj {mark : Char} (other : mark.isDigit = false) {m n : Nat}
    {rest rest' : List Char}
    (same : Nat.toDigits 10 m ++ mark :: rest = Nat.toDigits 10 n ++ mark :: rest') :
    m = n ∧ rest = rest' := by
  obtain ⟨digits, behind⟩ :=
    Text.append_mark_inj (not_mem_toDigits other m) (not_mem_toDigits other n) same
  exact ⟨toDigits_inj digits, behind⟩

/-- The number that the digits stand for. -/
def readNumber? (cs : List Char) : Option Nat :=
  if cs ≠ [] ∧ ∀ c ∈ cs, c.isDigit then some (Nat.ofDigitChars 10 cs 0) else none

theorem readNumber?_toDigits (n : Nat) : readNumber? (Nat.toDigits 10 n) = some n := by
  rw [readNumber?, if_pos, Nat.ofDigitChars_ten_toDigits]
  refine ⟨Nat.toDigits_ne_nil, fun c met => ?_⟩
  exact Nat.isDigit_of_mem_toDigits (by decide) (by decide) met

end OpenDocs
