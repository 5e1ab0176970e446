import OpenDocs.Encoding.Wide
import OpenDocs.Proofs.Encoding.Utf8

/-!
# UTF-16 and UTF-32 are read as they are written

In either byte order a unit's bytes stand for its number again. No character has a surrogate's
number, so that a pair of surrogates in UTF-16 is not mistaken for two characters.
-/

namespace OpenDocs.Encoding

/-! ### Units -/

theorem ByteOrder.number_arrange (order : ByteOrder) (bytes : List UInt8) :
    order.number (order.arrange bytes) = ByteOrder.big.number bytes := by
  cases order with
  | little => rw [number, arrange, arrange, List.reverse_reverse]; rfl
  | big => rfl

namespace Utf16

theorem exists_unit (order : ByteOrder) {n : Nat} (small : n < 0x10000) :
    ∃ b b₁, unit order n = [b, b₁] ∧ order.number [b, b₁] = n := by
  have value : ByteOrder.big.number [.ofNat (n / 256), .ofNat (n % 256)] = n := by
    change (0 * 256 + (UInt8.ofNat (n / 256)).toNat) * 256 + (UInt8.ofNat (n % 256)).toNat = n
    rw [toNat_byte (by omega), toNat_byte (by omega)]
    omega
  rw [← order.number_arrange] at value
  cases order with
  | little => exact ⟨_, _, rfl, value⟩
  | big => exact ⟨_, _, rfl, value⟩

theorem reads (order : ByteOrder) : (codec order).Reads (encodeChar order) := by
  intro c
  have valid := toNat_cases c
  simp only [encodeChar]
  split
  · next single =>
    obtain ⟨b, b₁, bytes, value⟩ := exists_unit order single
    refine ⟨b, [b₁], bytes, fun rest => ?_⟩
    have apart : isLow c.toNat = false ∧ isHigh c.toNat = false := by
      simp only [isLow, isHigh, Bool.and_eq_false_iff, decide_eq_false_iff_not]
      omega
    change front order b (b₁ :: rest) = _
    simp only [front, value, apart, Char.ofNat_toNat]
    rfl
  · next pair =>
    obtain ⟨b, b₁, bytes, value⟩ :=
      exists_unit order (n := 0xD800 + (c.toNat - 0x10000) / 0x400) (by omega)
    obtain ⟨b₂, b₃, bytes', value'⟩ :=
      exists_unit order (n := 0xDC00 + (c.toNat - 0x10000) % 0x400) (by omega)
    refine ⟨b, [b₁, b₂, b₃], by rw [bytes, bytes']; rfl, fun rest => ?_⟩
    have first : isLow (0xD800 + (c.toNat - 0x10000) / 0x400) = false ∧
        isHigh (0xD800 + (c.toNat - 0x10000) / 0x400) = true := by
      simp only [isLow, isHigh, Bool.and_eq_false_iff, Bool.and_eq_true, decide_eq_false_iff_not,
        decide_eq_true_eq]
      omega
    have second : isLow (0xDC00 + (c.toNat - 0x10000) % 0x400) = true := by
      simp only [isLow, Bool.and_eq_true, decide_eq_true_eq]
      omega
    have joined : 0x10000 + (0xD800 + (c.toNat - 0x10000) / 0x400 - 0xD800) * 0x400 +
        (0xDC00 + (c.toNat - 0x10000) % 0x400 - 0xDC00) = c.toNat := by omega
    change front order b (b₁ :: b₂ :: b₃ :: rest) = _
    simp only [front, value, value', first, second, joined, Char.ofNat_toNat]
    rfl

end Utf16

namespace Utf32

theorem reads (order : ByteOrder) : (codec order).Reads (encodeChar order) := by
  intro c
  have valid := toNat_cases c
  have value : ByteOrder.big.number [.ofNat (c.toNat / 0x1000000), .ofNat (c.toNat / 0x10000 % 256),
      .ofNat (c.toNat / 256 % 256), .ofNat (c.toNat % 256)] = c.toNat := by
    change (((0 * 256 + (UInt8.ofNat (c.toNat / 0x1000000)).toNat) * 256 +
      (UInt8.ofNat (c.toNat / 0x10000 % 256)).toNat) * 256 +
      (UInt8.ofNat (c.toNat / 256 % 256)).toNat) * 256 + (UInt8.ofNat (c.toNat % 256)).toNat = _
    rw [toNat_byte (by omega), toNat_byte (by omega), toNat_byte (by omega), toNat_byte (by omega)]
    omega
  rw [← order.number_arrange] at value
  have four : ∃ b b₁ b₂ b₃, encodeChar order c = [b, b₁, b₂, b₃] ∧
      order.number [b, b₁, b₂, b₃] = c.toNat := by
    cases order with
    | little => exact ⟨_, _, _, _, rfl, value⟩
    | big => exact ⟨_, _, _, _, rfl, value⟩
  obtain ⟨b, b₁, b₂, b₃, bytes, value⟩ := four
  refine ⟨b, [b₁, b₂, b₃], bytes, fun rest => ?_⟩
  change front order b (b₁ :: b₂ :: b₃ :: rest) = _
  simp only [front, value]
  rw [if_neg (by omega), if_pos (by omega), Char.ofNat_toNat]
  rfl

end Utf32

end OpenDocs.Encoding
