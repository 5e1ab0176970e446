import OpenDocs.Encoding.Utf8
import OpenDocs.Proofs.Encoding.Codec
import Mathlib

/-!
# UTF-8 is read as it is written

The bytes of a character are read as that character, and no other bytes are: no longer form, no
surrogate, nothing cut short. So the bytes that can be read are the valid ones.
-/

namespace OpenDocs.Encoding

theorem toNat_cases (c : Char) : c.toNat < 0xD800 ∨ 0xDFFF < c.toNat ∧ c.toNat < 0x110000 := c.valid

theorem toNat_ofNat_char {n : Nat} (valid : n < 0xD800 ∨ 0xDFFF < n ∧ n < 0x110000) :
    (Char.ofNat n).toNat = n := by
  rw [Char.toNat_ofNat, if_pos valid]

theorem toNat_byte {n : Nat} (small : n < 256) : (UInt8.ofNat n).toNat = n :=
  UInt8.toNat_ofNat_of_lt' small

namespace Utf8

/-! ### The forms of a character, by the digits of its number to the base 64 -/

section

variable {c : Char} {k x y z : Nat}

theorem encodeChar_one (small : c.toNat < 0x80) : encodeChar c = [.ofNat c.toNat] := if_pos small

theorem encodeChar_two (digits : c.toNat = k * 64 + x) (first : 2 ≤ k ∧ k < 32) (low : x < 64) :
    encodeChar c = [.ofNat (0xC0 + k), .ofNat (0x80 + x)] := by
  have lead : c.toNat / 64 = k := by omega
  have last : c.toNat % 64 = x := by omega
  simp only [encodeChar]
  rw [if_neg (by omega), if_pos (by omega), lead, last]

theorem encodeChar_three (digits : c.toNat = (k * 64 + x) * 64 + y) (first : k < 16)
    (long : k = 0 → 0x20 ≤ x) (middle : x < 64) (low : y < 64) :
    encodeChar c = [.ofNat (0xE0 + k), .ofNat (0x80 + x), .ofNat (0x80 + y)] := by
  have lead : c.toNat / 4096 = k := by omega
  have second : c.toNat / 64 % 64 = x := by omega
  have last : c.toNat % 64 = y := by omega
  simp only [encodeChar]
  rw [if_neg (by omega), if_neg (by omega), if_pos (by omega), lead, second, last]

theorem encodeChar_four (digits : c.toNat = ((k * 64 + x) * 64 + y) * 64 + z) (first : k < 5)
    (long : k = 0 → 0x10 ≤ x) (upper : x < 64) (middle : y < 64) (low : z < 64) :
    encodeChar c =
      [.ofNat (0xF0 + k), .ofNat (0x80 + x), .ofNat (0x80 + y), .ofNat (0x80 + z)] := by
  have lead : c.toNat / 262144 = k := by omega
  have second : c.toNat / 4096 % 64 = x := by omega
  have third : c.toNat / 64 % 64 = y := by omega
  have last : c.toNat % 64 = z := by omega
  simp only [encodeChar]
  rw [if_neg (by omega), if_neg (by omega), if_neg (by omega), lead, second, third, last]

end

/-! ### First bytes and what they owe -/

section

variable {k : Nat}

theorem lead?_two (first : 2 ≤ k ∧ k < 32) : lead? (0xC0 + k) = some ⟨k, 0x80, 0xBF, 1⟩ := by
  rw [lead?, if_neg (by omega), if_pos (by omega), Nat.add_sub_cancel_left]

theorem lead?_three (first : k < 16) : lead? (0xE0 + k) =
    some ⟨k, if k = 0 then 0xA0 else 0x80, if k = 13 then 0x9F else 0xBF, 2⟩ := by
  interval_cases k <;> rfl

theorem lead?_four (first : k < 5) : lead? (0xF0 + k) =
    some ⟨k, if k = 0 then 0x90 else 0x80, if k = 4 then 0x8F else 0xBF, 3⟩ := by
  interval_cases k <;> rfl

/-- Every first byte of several is one of these. -/
theorem lead?_cases {n : Nat} {l : Lead} (found : lead? n = some l) :
    (∃ k, (2 ≤ k ∧ k < 32) ∧ n = 0xC0 + k) ∨ (∃ k, k < 16 ∧ n = 0xE0 + k) ∨
      ∃ k, k < 5 ∧ n = 0xF0 + k := by
  have low : 0xC2 ≤ n := by
    by_contra below
    rw [lead?, if_pos (by omega)] at found
    cases found
  have high : n < 0xF5 := by
    by_contra above
    simp only [lead?] at found
    rw [if_neg (by omega), if_neg (by omega), if_neg (by omega), if_neg (by omega),
      if_neg (by omega), if_neg (by omega), if_neg (by omega), if_neg (by omega)] at found
    cases found
  by_cases two : n < 0xE0
  · exact .inl ⟨n - 0xC0, by omega, by omega⟩
  · by_cases three : n < 0xF0
    · exact .inr (.inl ⟨n - 0xE0, by omega, by omega⟩)
    · exact .inr (.inr ⟨n - 0xF0, by omega, by omega⟩)

theorem front_of_lead {b : UInt8} {bits low high more : Nat} (rest : List UInt8)
    (found : lead? b.toNat = some ⟨bits, low, high, more⟩) :
    front b rest = tails bits low high 0 more rest := by
  have high : ¬ b.toNat < 0x80 := by
    rcases lead?_cases found with ⟨k, _, same⟩ | ⟨k, _, same⟩ | ⟨k, _, same⟩ <;> omega
  rw [front, if_neg high, found]

end

theorem tails_cons {bits low high taken owed x : Nat} {rest : List UInt8} (small : x < 64)
    (above : low ≤ 0x80 + x) (below : 0x80 + x ≤ high) :
    tails bits low high taken (owed + 1) (.ofNat (0x80 + x) :: rest) =
      tails (bits * 64 + x) 0x80 0xBF (taken + 1) owed rest := by
  rw [tails, toNat_byte (by omega), if_pos ⟨above, below⟩, Nat.add_sub_cancel_left]

/-- The digit in the next byte, if a character is read. -/
theorem tails_eq_char {bits low high taken owed : Nat} {rest : List UInt8} {c : Char} {more : Nat}
    (wide : 0x80 ≤ low ∧ high ≤ 0xBF)
    (read : tails bits low high taken (owed + 1) rest = .char c more) :
    ∃ x rest', rest = .ofNat (0x80 + x) :: rest' ∧ x < 64 ∧ low ≤ 0x80 + x ∧ 0x80 + x ≤ high ∧
      tails (bits * 64 + x) 0x80 0xBF (taken + 1) owed rest' = .char c more := by
  cases rest with
  | nil => cases read
  | cons b rest =>
    rw [tails] at read
    split at read
    · next within =>
      have same : 0x80 + (b.toNat - 0x80) = b.toNat := by omega
      refine ⟨b.toNat - 0x80, rest, ?_, by omega, by omega, by omega, read⟩
      rw [same, UInt8.ofNat_toNat]
    · cases read

theorem tails_zero {bits low high taken : Nat} {rest : List UInt8} :
    tails bits low high taken 0 rest = .char (Char.ofNat bits) taken := rfl

/-! ### Reading -/

section

variable {k x y z : Nat} (rest : List UInt8)

theorem front_two (first : 2 ≤ k ∧ k < 32) (low : x < 64) :
    front (.ofNat (0xC0 + k)) (.ofNat (0x80 + x) :: rest) = .char (Char.ofNat (k * 64 + x)) 1 := by
  have found : lead? (UInt8.ofNat (0xC0 + k)).toNat = some ⟨k, 0x80, 0xBF, 1⟩ := by
    rw [toNat_byte (by omega), lead?_two first]
  rw [front_of_lead _ found, tails_cons low (by omega) (by omega), tails_zero]

theorem front_three (first : k < 16) (long : k = 0 → 0x20 ≤ x) (plain : k = 13 → x < 0x20)
    (middle : x < 64) (low : y < 64) :
    front (.ofNat (0xE0 + k)) (.ofNat (0x80 + x) :: .ofNat (0x80 + y) :: rest) =
      .char (Char.ofNat ((k * 64 + x) * 64 + y)) 2 := by
  have found : lead? (UInt8.ofNat (0xE0 + k)).toNat =
      some ⟨k, if k = 0 then 0xA0 else 0x80, if k = 13 then 0x9F else 0xBF, 2⟩ := by
    rw [toNat_byte (by omega), lead?_three first]
  rw [front_of_lead _ found, tails_cons middle (by split <;> omega) (by split <;> omega),
    tails_cons low (by omega) (by omega), tails_zero]

theorem front_four (first : k < 5) (long : k = 0 → 0x10 ≤ x) (within : k = 4 → x < 0x10)
    (upper : x < 64) (middle : y < 64) (low : z < 64) :
    front (.ofNat (0xF0 + k))
        (.ofNat (0x80 + x) :: .ofNat (0x80 + y) :: .ofNat (0x80 + z) :: rest) =
      .char (Char.ofNat (((k * 64 + x) * 64 + y) * 64 + z)) 3 := by
  have found : lead? (UInt8.ofNat (0xF0 + k)).toNat =
      some ⟨k, if k = 0 then 0x90 else 0x80, if k = 4 then 0x8F else 0xBF, 3⟩ := by
    rw [toNat_byte (by omega), lead?_four first]
  rw [front_of_lead _ found, tails_cons upper (by split <;> omega) (by split <;> omega),
    tails_cons middle (by omega) (by omega), tails_cons low (by omega) (by omega), tails_zero]

end

theorem reads : codec.Reads encodeChar := by
  intro c
  have valid := toNat_cases c
  by_cases one : c.toNat < 0x80
  · refine ⟨_, [], encodeChar_one one, fun rest => ?_⟩
    change front _ _ = _
    rw [front, toNat_byte (by omega), if_pos one, Char.ofNat_toNat]
    rfl
  by_cases two : c.toNat < 0x800
  · have digits : c.toNat = c.toNat / 64 * 64 + c.toNat % 64 := by omega
    have first : 2 ≤ c.toNat / 64 ∧ c.toNat / 64 < 32 := by omega
    have low : c.toNat % 64 < 64 := by omega
    refine ⟨_, _, encodeChar_two digits first low, fun rest => ?_⟩
    have read := front_two rest first low
    rwa [← digits, Char.ofNat_toNat] at read
  by_cases three : c.toNat < 0x10000
  · have digits : c.toNat = (c.toNat / 4096 * 64 + c.toNat / 64 % 64) * 64 + c.toNat % 64 := by
      omega
    have first : c.toNat / 4096 < 16 := by omega
    have long : c.toNat / 4096 = 0 → 0x20 ≤ c.toNat / 64 % 64 := by omega
    have plain : c.toNat / 4096 = 13 → c.toNat / 64 % 64 < 0x20 := by omega
    have middle : c.toNat / 64 % 64 < 64 := by omega
    have low : c.toNat % 64 < 64 := by omega
    refine ⟨_, _, encodeChar_three digits first long middle low, fun rest => ?_⟩
    have read := front_three rest first long plain middle low
    rwa [← digits, Char.ofNat_toNat] at read
  · have digits : c.toNat = ((c.toNat / 262144 * 64 + c.toNat / 4096 % 64) * 64 +
        c.toNat / 64 % 64) * 64 + c.toNat % 64 := by omega
    have first : c.toNat / 262144 < 5 := by omega
    have long : c.toNat / 262144 = 0 → 0x10 ≤ c.toNat / 4096 % 64 := by omega
    have within : c.toNat / 262144 = 4 → c.toNat / 4096 % 64 < 0x10 := by omega
    have upper : c.toNat / 4096 % 64 < 64 := by omega
    have middle : c.toNat / 64 % 64 < 64 := by omega
    have low : c.toNat % 64 < 64 := by omega
    refine ⟨_, _, encodeChar_four digits first long upper middle low, fun rest => ?_⟩
    have read := front_four rest first long within upper middle low
    rwa [← digits, Char.ofNat_toNat] at read

theorem exact_ : codec.Exact encodeChar := by
  intro b rest c more read
  change front b rest = _ at read
  have same {n : Nat} (value : b.toNat = n) : UInt8.ofNat n = b := by
    rw [← value, UInt8.ofNat_toNat]
  by_cases one : b.toNat < 0x80
  · rw [front, if_pos one] at read
    obtain ⟨rfl, rfl⟩ := Front.char.inj read
    have value : (Char.ofNat b.toNat).toNat = b.toNat := toNat_ofNat_char (by omega)
    rw [encodeChar_one (by omega), value, UInt8.ofNat_toNat, List.take_zero]
  cases found : lead? b.toNat with
  | none =>
    rw [front, if_neg one, found] at read
    cases read
  | some l =>
    obtain ⟨bits, least, most, owed⟩ := l
    rw [front_of_lead rest found] at read
    rcases lead?_cases found with ⟨k, first, value⟩ | ⟨k, first, value⟩ | ⟨k, first, value⟩
    · rw [value, lead?_two first] at found
      obtain ⟨rfl, rfl, rfl, rfl⟩ := Lead.mk.inj (Option.some.inj found)
      obtain ⟨x, rest, rfl, low, _, _, read⟩ := tails_eq_char (by omega) read
      obtain ⟨rfl, rfl⟩ := Front.char.inj read
      rw [encodeChar_two (toNat_ofNat_char (by omega)) first low, same value]
      rfl
    · rw [value, lead?_three first] at found
      obtain ⟨rfl, rfl, rfl, rfl⟩ := Lead.mk.inj (Option.some.inj found)
      obtain ⟨x, rest, rfl, middle, above, below, read⟩ :=
        tails_eq_char (by constructor <;> split <;> omega) read
      obtain ⟨y, rest, rfl, low, _, _, read⟩ := tails_eq_char (by omega) read
      obtain ⟨rfl, rfl⟩ := Front.char.inj read
      have long : k = 0 → 0x20 ≤ x := fun least => by rw [if_pos least] at above; omega
      have plain : k = 13 → x < 0x20 := fun last => by rw [if_pos last] at below; omega
      rw [encodeChar_three (toNat_ofNat_char (by omega)) first long middle low, same value]
      rfl
    · rw [value, lead?_four first] at found
      obtain ⟨rfl, rfl, rfl, rfl⟩ := Lead.mk.inj (Option.some.inj found)
      obtain ⟨x, rest, rfl, upper, above, below, read⟩ :=
        tails_eq_char (by constructor <;> split <;> omega) read
      obtain ⟨y, rest, rfl, middle, _, _, read⟩ := tails_eq_char (by omega) read
      obtain ⟨z, rest, rfl, low, _, _, read⟩ := tails_eq_char (by omega) read
      obtain ⟨rfl, rfl⟩ := Front.char.inj read
      have long : k = 0 → 0x10 ≤ x := fun least => by rw [if_pos least] at above; omega
      have within : k = 4 → x < 0x10 := fun last => by rw [if_pos last] at below; omega
      rw [encodeChar_four (toNat_ofNat_char (by omega)) first long upper middle low, same value]
      rfl

theorem decode_eq_ok_iff {position : Nat} {bytes : List UInt8} {t : List Char} :
    codec.decode .refuse position bytes = .ok t ↔ bytes = encode t :=
  Codec.decode_eq_ok_iff reads exact_

/-! ### Which bytes are valid -/

theorem encodeChar_eq (c : Char) : encodeChar c = String.utf8EncodeChar c := by
  have same : c.val.toNat = c.toNat := rfl
  have valid := toNat_cases c
  simp only [String.utf8EncodeChar, encodeChar, same]
  by_cases one : c.toNat < 0x80
  · rw [if_pos one, if_pos (by omega)]
  by_cases two : c.toNat < 0x800
  · have first : c.toNat / 64 % 0x20 = c.toNat / 64 := by omega
    rw [if_neg one, if_pos two, if_neg (by omega), if_pos (by omega), first]
    simp only [Nat.add_comm]
  by_cases three : c.toNat < 0x10000
  · have first : c.toNat / 4096 % 0x10 = c.toNat / 4096 := by omega
    rw [if_neg one, if_neg two, if_pos three, if_neg (by omega), if_neg (by omega),
      if_pos (by omega), first]
    simp only [Nat.add_comm]
  · have first : c.toNat / 262144 % 0x08 = c.toNat / 262144 := by omega
    rw [if_neg one, if_neg two, if_neg three, if_neg (by omega), if_neg (by omega),
      if_neg (by omega), first]
    simp only [Nat.add_comm]

theorem isValidUTF8_iff {bytes : List UInt8} :
    bytes.toByteArray.IsValidUTF8 ↔ ∃ t, bytes = encode t := by
  have spelled (t : List Char) : encode t = t.flatMap String.utf8EncodeChar := by
    rw [encode, funext encodeChar_eq]
  constructor
  · rintro ⟨t, same⟩
    refine ⟨t, ?_⟩
    have listed := congrArg (fun b : ByteArray => b.data.toList) same
    rw [spelled]
    simpa [List.utf8Encode, List.toList_data_toByteArray] using listed
  · rintro ⟨t, rfl⟩
    rw [spelled]
    exact ⟨t, rfl⟩

theorem lt_of_mem_encode {b : UInt8} {t : List Char} (held : b ∈ encode t) : b.toNat < 0xF8 := by
  obtain ⟨c, _, held⟩ := List.mem_flatMap.mp held
  have valid := toNat_cases c
  simp only [encodeChar] at held
  split_ifs at held <;> simp only [List.mem_cons, List.not_mem_nil, or_false] at held
  · rw [held, toNat_byte (by omega)]
    omega
  · rcases held with held | held <;> rw [held, toNat_byte (by omega)] <;> omega
  · rcases held with held | held | held <;> rw [held, toNat_byte (by omega)] <;> omega
  · rcases held with held | held | held | held <;> rw [held, toNat_byte (by omega)] <;> omega

end Utf8

end OpenDocs.Encoding
