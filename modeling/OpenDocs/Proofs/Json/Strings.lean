import OpenDocs.Json.Printer
import OpenDocs.Json.Reader
import OpenDocs.Proofs.Encoding.Utf8
import Mathlib

/-!
# Strings are read as they are quoted

The reader undoes each escape, whatever follows. A character above 0xFFFF is written by two units,
which are joined again; no other character has the unit of a surrogate.
-/

namespace OpenDocs.Json

/-- The reader got this far: it has found something, and this is what it has not read yet. -/
def Leaves {Why α : Type} (result : Except Why (α × Rest)) (found : α) (rest : List Char) : Prop :=
  ∃ offset, result = .ok (found, ⟨rest, offset⟩)

/-! ### Code units -/

theorem hexDigit?_hexChar {n : Nat} (small : n < 16) : hexDigit? (hexChar n) = some n := by
  interval_cases n <;> rfl

theorem codeUnit?_hexChars {n : Nat} (small : n < 0x10000) :
    codeUnit? (hexChar (n / 4096 % 16)) (hexChar (n / 256 % 16)) (hexChar (n / 16 % 16))
      (hexChar (n % 16)) = some n := by
  have value : ((n / 4096 % 16 * 16 + n / 256 % 16) * 16 + n / 16 % 16) * 16 + n % 16 = n := by
    omega
  simp only [codeUnit?]
  rw [hexDigit?_hexChar (by omega), hexDigit?_hexChar (by omega), hexDigit?_hexChar (by omega),
    hexDigit?_hexChar (by omega)]
  exact congrArg some value

/-! ### Steps of the reader -/

section

variable {opened n : Nat} {rest : List Char} {done : List Text.Point}

theorem readString_close : readString opened ('"' :: rest) n done =
    .ok (done.reverse, ⟨rest, n + 1⟩) := by
  rw [readString]

theorem readString_plain {c : Char} (noQuote : c ≠ '"') (noSlash : c ≠ '\\')
    (printable : 0x1f < c.toNat) : readString opened (c :: rest) n done =
      readString opened rest (n + 1) (.char c :: done) := by
  rw [readString]
  · rw [if_neg (by omega)]
  all_goals simp_all

theorem readString_simple {e c : Char} (escape : simpleEscape? e = some c) :
    readString opened ('\\' :: e :: rest) n done =
      readString opened rest (n + 2) (.char c :: done) := by
  have other : e ≠ 'u' := by
    rintro rfl
    cases escape
  rw [readString]
  · rw [escape]
  all_goals simp_all

theorem readString_unit (opened n : Nat) (done : List Text.Point) {a b c d : Char} {u : Nat}
    (unit : codeUnit? a b c d = some u) (single : isHighUnit u = false) (more : rest ≠ []) :
    readString opened ('\\' :: 'u' :: a :: b :: c :: d :: rest) n done =
      readString opened rest (n + 6) (.ofUnit u :: done) := by
  -- The reader looks for a second unit before it knows whether the first calls for one.
  by_cases second : ∃ a' b' c' d' behind, rest = '\\' :: 'u' :: a' :: b' :: c' :: d' :: behind
  · obtain ⟨a', b', c', d', behind, rfl⟩ := second
    rw [readString, unit]
    simp only [single, Bool.false_and]
    rfl
  · obtain ⟨e, behind, rfl⟩ := List.exists_cons_of_ne_nil more
    rw [readString]
    · rw [unit]
    · rintro a' b' c' d' last rfl rfl
      exact second ⟨a', b', c', d', last, rfl⟩

theorem readString_pair (opened n : Nat) (done : List Text.Point) {a b c d a' b' c' d' : Char}
    {high low : Nat} (first : codeUnit? a b c d = some high)
    (second : codeUnit? a' b' c' d' = some low) (isHigh : isHighUnit high = true)
    (isLow : isLowUnit low = true) (more : rest ≠ []) :
    readString opened
        ('\\' :: 'u' :: a :: b :: c :: d :: '\\' :: 'u' :: a' :: b' :: c' :: d' :: rest) n done =
      readString opened rest (n + 12) (.char (joinUnits high low) :: done) := by
  have filled : rest.isEmpty = false := by simpa using more
  rw [readString, first, second]
  simp only [isHigh, isLow, filled]
  rfl

/-! ### What is quoted -/

theorem ofUnit_toNat (c : Char) :
    isHighUnit c.toNat = false ∧ Text.Point.ofUnit c.toNat = .char c := by
  have valid := Encoding.toNat_cases c
  have notHigh : isHighUnit c.toNat = false := by
    simp only [isHighUnit, Bool.and_eq_false_iff, decide_eq_false_iff_not]
    omega
  refine ⟨notHigh, ?_⟩
  rw [Text.Point.ofUnit, dif_neg (by omega), Char.ofNat_toNat]

theorem readString_unitEscape {c : Char} (narrow : c.toNat < 0x10000) (more : rest ≠ []) :
    readString opened (unitEscape c.toNat ++ rest) n done =
      readString opened rest (n + 6) (.char c :: done) := by
  obtain ⟨notHigh, same⟩ := ofUnit_toNat c
  have step := readString_unit opened n done (codeUnit?_hexChars narrow) notHigh more
  rwa [same] at step

theorem readString_unitEscapes {c : Char} (wide : 0x10000 ≤ c.toNat) (more : rest ≠ []) :
    readString opened (unitEscape (0xD800 + (c.toNat - 0x10000) / 0x400) ++
        (unitEscape (0xDC00 + (c.toNat - 0x10000) % 0x400) ++ rest)) n done =
      readString opened rest (n + 12) (.char c :: done) := by
  have valid := Encoding.toNat_cases c
  have isHigh : isHighUnit (0xD800 + (c.toNat - 0x10000) / 0x400) = true := by
    simp only [isHighUnit, Bool.and_eq_true, decide_eq_true_eq]
    omega
  have isLow : isLowUnit (0xDC00 + (c.toNat - 0x10000) % 0x400) = true := by
    simp only [isLowUnit, Bool.and_eq_true, decide_eq_true_eq]
    omega
  have joined : 0x10000 + (0xD800 + (c.toNat - 0x10000) / 0x400 - 0xD800) * 0x400 +
      (0xDC00 + (c.toNat - 0x10000) % 0x400 - 0xDC00) = c.toNat := by omega
  have step := readString_pair opened n done
    (codeUnit?_hexChars (n := 0xD800 + (c.toNat - 0x10000) / 0x400) (by omega))
    (codeUnit?_hexChars (n := 0xDC00 + (c.toNat - 0x10000) % 0x400) (by omega)) isHigh isLow more
  rwa [joinUnits, joined, Char.ofNat_toNat] at step

theorem readString_escapeChar (opened n : Nat) (done : List Text.Point) (c : Char)
    (more : rest ≠ []) :
    ∃ behind, readString opened (escapeChar c ++ rest) n done =
      readString opened rest behind (.char c :: done) := by
  rw [escapeChar.eq_def]
  split
  · exact ⟨_, readString_simple rfl⟩
  · exact ⟨_, readString_simple rfl⟩
  · exact ⟨_, readString_simple rfl⟩
  · exact ⟨_, readString_simple rfl⟩
  · exact ⟨_, readString_simple rfl⟩
  · exact ⟨_, readString_simple rfl⟩
  · exact ⟨_, readString_simple rfl⟩
  · next noQuote noSlash _ _ _ _ _ =>
    simp only
    split
    · next printable => exact ⟨_, readString_plain noQuote noSlash (by omega)⟩
    · split
      · next narrow => exact ⟨_, readString_unitEscape narrow more⟩
      · next wide =>
        rw [List.append_assoc]
        exact ⟨_, readString_unitEscapes (by omega) more⟩

theorem readString_escaped (opened n : Nat) (done : List Text.Point) (cs rest : List Char) :
    Leaves (readString opened (cs.flatMap escapeChar ++ '"' :: rest) n done)
      (done.reverse ++ Text.pointsOf cs) rest := by
  induction cs generalizing n done with
  | nil => exact ⟨_, by rw [Text.pointsOf, List.map_nil, List.append_nil]; exact readString_close⟩
  | cons c cs ih =>
    have more : cs.flatMap escapeChar ++ '"' :: rest ≠ [] := by simp
    obtain ⟨behind, step⟩ := readString_escapeChar opened n done c more
    rw [List.flatMap_cons, List.append_assoc, step]
    simpa [Text.pointsOf] using ih behind (.char c :: done)

/-- Behind its first quote, a quoted string is read as it was. -/
theorem readString_quoted (opened n : Nat) (s : String) (rest : List Char) :
    Leaves (readString opened (s.toList.flatMap escapeChar ++ '"' :: rest) n [])
      (Text.points s) rest := by
  simpa [Text.points] using readString_escaped opened n [] s.toList rest

theorem toList_quoted (s : String) :
    (quoted s).toList = '"' :: (s.toList.flatMap escapeChar ++ ['"']) := by
  rw [quoted, String.toList_ofList, List.cons_append]

theorem quoted_append (s : String) (rest : List Char) :
    (quoted s).toList ++ rest = '"' :: (s.toList.flatMap escapeChar ++ '"' :: rest) := by
  rw [toList_quoted, List.cons_append, List.append_assoc]
  rfl

end

end OpenDocs.Json
