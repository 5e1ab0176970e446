import OpenDocs.Proofs.Json.Strings
import OpenDocs.Proofs.Number.Decimal

/-!
# Whole numbers are read as they are written

The digits of a number have no nought in front and no word begins with one, so that a number is
neither cut short nor taken for something else. What comes behind it must not go on with it.
-/

namespace OpenDocs.Json

variable {n : Nat} {rest : List Char}

/-- What may come behind a value: nothing, or what parts it from the next. -/
def Ends (rest : List Char) : Prop :=
  rest.head? = none ∨ rest.head? = some ',' ∨ rest.head? = some '\n'

theorem isDigit_iff {c : Char} : isDigit c = true ↔ c.isDigit = true := by
  simp only [isDigit, Char.isDigit, Bool.and_eq_true, decide_eq_true_eq]
  rfl

theorem isDigit_of_mem_toDigits {c : Char} {m : Nat} (held : c ∈ Nat.toDigits 10 m) :
    isDigit c = true :=
  isDigit_iff.mpr (Nat.isDigit_of_mem_toDigits (by decide) (by decide) held)

theorem ne_of_isDigit {c x : Char} (digit : c.isDigit = true) (other : x.isDigit = false) :
    c ≠ x := by
  rintro rfl
  rw [other] at digit
  cases digit

theorem natOfDigits_toDigits (m : Nat) : natOfDigits (Nat.toDigits 10 m) = m := by
  have same : natOfDigits (Nat.toDigits 10 m) = Nat.ofDigitChars 10 (Nat.toDigits 10 m) 0 := by
    simp only [natOfDigits, Nat.ofDigitChars, Nat.mul_comm]
    rfl
  rw [same, Nat.ofDigitChars_ten_toDigits]

/-- No nought in front, but for the number nought. -/
theorem head?_toDigits {m : Nat} (positive : 0 < m) : (Nat.toDigits 10 m).head? ≠ some '0' := by
  induction m using Nat.strongRecOn with
  | ind m ih =>
    by_cases small : m < 10
    · rw [Nat.toDigits_of_lt_base small]
      interval_cases m <;> decide
    · rw [Nat.toDigits_of_base_le (by decide) (by omega), List.head?_append]
      have first := ih (m / 10) (by omega) (by omega)
      cases front : (Nat.toDigits 10 (m / 10)).head? with
      | none => exact absurd (List.head?_eq_none_iff.mp front) Nat.toDigits_ne_nil
      | some c => rwa [front] at first

theorem span_toDigits (m : Nat) (ends : Ends rest) :
    (Nat.toDigits 10 m ++ rest).span isDigit = (Nat.toDigits 10 m, rest) := by
  have stop : ∀ c, rest.head? = some c → isDigit c = false := by
    rintro c front
    rcases ends with none_ | comma | line
    · rw [none_] at front; cases front
    · rw [comma] at front; cases front; rfl
    · rw [line] at front; cases front; rfl
  have digits : ∀ c ∈ Nat.toDigits 10 m, isDigit c = true :=
    fun c held => isDigit_of_mem_toDigits held
  rw [List.span_eq_takeWhile_dropWhile, List.takeWhile_append_of_pos digits,
    List.dropWhile_append_of_pos digits]
  cases rest with
  | nil => simp
  | cons c rest => simp [stop c rfl]

theorem fractionDigits_of_ends (ends : Ends rest) : fractionDigits rest = ([], rest) := by
  cases rest with
  | nil => rfl
  | cons c rest =>
    rw [fractionDigits]
    rintro cs same
    cases same
    rcases ends with h | h | h <;> cases h

theorem exponentPart_of_ends (ends : Ends rest) : exponentPart rest = (none, rest) := by
  cases rest with
  | nil => rfl
  | cons c rest =>
    rcases ends with h | h | h <;> cases h <;> rfl

/-- All digits are read, and then counted. -/
theorem readNumber_toDigits_eq (negative : Bool) (start m : Nat) (ends : Ends rest) :
    ∃ next, readNumber negative start (Nat.toDigits 10 m ++ rest) =
      if maxDigits < (Nat.toDigits 10 m).length then .error ⟨.beyond .digits, start⟩
      else .ok (.int (if negative then -(m : Int) else m), ⟨rest, next⟩) := by
  have filled : (Nat.toDigits 10 m).isEmpty = false := by simp
  rw [readNumber.eq_def]
  split
  next whole behind parts =>
    have read : whole = Nat.toDigits 10 m ∧ behind = rest := by
      split at parts
      · next more front =>
        -- Only the number nought begins with a nought.
        obtain ⟨rfl, rfl⟩ := Prod.mk.inj parts
        rcases Nat.eq_zero_or_pos m with rfl | positive
        · exact ⟨rfl, (List.cons.inj front).2.symm⟩
        · have head := head?_toDigits positive
          obtain ⟨c, ds, digits⟩ :=
            List.exists_cons_of_ne_nil (Nat.toDigits_ne_nil (b := 10) (n := m))
          rw [digits] at front head
          obtain ⟨rfl, _⟩ := List.cons.inj front
          exact absurd rfl head
      · rw [span_toDigits m ends] at parts
        exact (Prod.mk.inj parts).imp Eq.symm Eq.symm
    obtain ⟨rfl, rfl⟩ := read
    simp only [filled, fractionDigits_of_ends ends, exponentPart_of_ends ends]
    rw [natOfDigits_toDigits]
    exact ⟨_, rfl⟩

theorem readNumber_toDigits (negative : Bool) (start m : Nat) (ends : Ends rest)
    (short : (Nat.toDigits 10 m).length ≤ maxDigits) :
    Leaves (readNumber negative start (Nat.toDigits 10 m ++ rest))
      (.int (if negative then -(m : Int) else m)) rest := by
  obtain ⟨next, read⟩ := readNumber_toDigits_eq negative start m ends
  exact ⟨next, read.trans (if_neg (Nat.not_lt.mpr short))⟩

theorem exists_toDigits_append (m : Nat) (rest : List Char) :
    ∃ c ds, Nat.toDigits 10 m ++ rest = c :: ds ∧ c.isDigit = true := by
  obtain ⟨c, ds, digits⟩ := List.exists_cons_of_ne_nil (Nat.toDigits_ne_nil (b := 10) (n := m))
  have held : c ∈ Nat.toDigits 10 m := digits ▸ List.mem_cons_self
  exact ⟨c, ds ++ rest, by rw [digits, List.cons_append],
    Nat.isDigit_of_mem_toDigits (by decide) (by decide) held⟩

/-- No word has a digit where a number has its first, be there a minus or not. -/
theorem words_spelled {w : List Char × Json} (listed : w ∈ words) :
    ∃ x y xs, w.1 = x :: y :: xs ∧ x.isDigit = false ∧ y.isDigit = false := by
  revert w
  simp [words]

theorem find?_words_digit {c : Char} (cs : List Char) (digit : c.isDigit = true) :
    words.find? (fun w => w.1.isPrefixOf (c :: cs)) = none := by
  rw [List.find?_eq_none]
  intro w listed front
  obtain ⟨x, y, xs, spelled, other, _⟩ := words_spelled listed
  rw [spelled, List.isPrefixOf_iff_prefix] at front
  exact ne_of_isDigit digit other (List.cons_prefix_cons.mp front).1.symm

theorem find?_words_minus {c : Char} (cs : List Char) (digit : c.isDigit = true) :
    words.find? (fun w => w.1.isPrefixOf ('-' :: c :: cs)) = none := by
  rw [List.find?_eq_none]
  intro w listed front
  obtain ⟨x, y, xs, spelled, _, other⟩ := words_spelled listed
  rw [spelled, List.isPrefixOf_iff_prefix] at front
  have behind := (List.cons_prefix_cons.mp front).2
  exact ne_of_isDigit digit other (List.cons_prefix_cons.mp behind).1.symm

theorem readAtom_digit {c : Char} (cs : List Char) (n : Nat) (digit : c.isDigit = true) :
    readAtom (c :: cs) n = readNumber false n (c :: cs) := by
  rw [readAtom, find?_words_digit cs digit]
  intro more same
  obtain ⟨rfl, _⟩ := List.cons.inj same
  exact absurd digit (by decide)

theorem toList_negSucc (m : Nat) :
    (toString (Int.negSucc m)).toList = '-' :: Nat.toDigits 10 (m + 1) := by
  change ("-" ++ (m + 1).repr).toList = _
  rw [String.toList_append, Nat.toList_repr]
  rfl

theorem readAtom_int {z : Int} (n : Nat) (ends : Ends rest)
    (short : (Nat.toDigits 10 z.natAbs).length ≤ maxDigits) :
    Leaves (readAtom ((toString z).toList ++ rest) n) (.int z) rest := by
  cases z with
  | ofNat m =>
    have text : (toString (Int.ofNat m)).toList = Nat.toDigits 10 m := Nat.toList_repr
    have read := readNumber_toDigits false n m ends short
    rw [text]
    obtain ⟨c, ds, digits, digit⟩ := exists_toDigits_append m rest
    rw [digits] at read ⊢
    rwa [readAtom_digit ds n digit]
  | negSucc m =>
    have read := readNumber_toDigits true n (m + 1) ends short
    rw [toList_negSucc, List.cons_append]
    obtain ⟨c, ds, digits, digit⟩ := exists_toDigits_append (m + 1) rest
    rw [digits] at read ⊢
    rw [readAtom, find?_words_minus ds digit]
    exact read

theorem exists_toString_int (z : Int) :
    ∃ c cs, (toString z).toList = c :: cs ∧ (c = '-' ∨ c.isDigit = true) := by
  cases z with
  | ofNat m =>
    obtain ⟨c, ds, digits, digit⟩ := exists_toDigits_append m []
    rw [List.append_nil] at digits
    exact ⟨c, ds, Nat.toList_repr.trans digits, .inr digit⟩
  | negSucc m => exact ⟨'-', _, toList_negSucc m, .inl rfl⟩

end OpenDocs.Json
