import OpenDocs.Encoding.Front

/-!
# Codecs that undo an encoding

A codec that reads each character off its bytes, whatever follows, reads a whole text off the bytes
of its characters. If it reads a character off no other bytes, no others are read at all.
-/

namespace OpenDocs.Encoding.Codec

/-- The codec reads each character off the bytes that stand for it, whatever follows. -/
def Reads (c : Codec) (encodeChar : Char → List UInt8) : Prop :=
  ∀ x, ∃ b tail, encodeChar x = b :: tail ∧ ∀ rest, c.front b (tail ++ rest) = .char x tail.length

/-- The codec reads characters off no other bytes. -/
def Exact (c : Codec) (encodeChar : Char → List UInt8) : Prop :=
  ∀ b rest x more, c.front b rest = .char x more → encodeChar x = b :: rest.take more

variable {c : Codec} {encodeChar : Char → List UInt8} {policy : Policy} {position : Nat}
  {t : List Char} {bytes : List UInt8}

theorem decode_nil : c.decode policy position [] = .ok [] := by rw [decode]

theorem decode_cons_char {b : UInt8} {rest : List UInt8} {x : Char} {more : Nat}
    (first : c.front b rest = .char x more) : c.decode policy position (b :: rest) =
      (c.decode policy (position + 1 + more) (rest.drop more)).map (x :: ·) := by
  rw [decode, first]
  rfl

theorem Reads.exists_decode (reads : c.Reads encodeChar) (policy : Policy) (position : Nat)
    (x : Char) (rest : List UInt8) :
    ∃ behind, c.decode policy position (encodeChar x ++ rest) =
      (c.decode policy behind rest).map (x :: ·) := by
  obtain ⟨b, tail, spelled, first⟩ := reads x
  refine ⟨position + 1 + tail.length, ?_⟩
  rw [spelled, List.cons_append, decode_cons_char (first rest), List.drop_left]

theorem Reads.decode_flatMap (reads : c.Reads encodeChar) (policy : Policy) (position : Nat)
    (t : List Char) : c.decode policy position (t.flatMap encodeChar) = .ok t := by
  induction t generalizing position with
  | nil => exact decode_nil
  | cons x t ih =>
    obtain ⟨behind, step⟩ := reads.exists_decode policy position x (t.flatMap encodeChar)
    rw [List.flatMap_cons, step, ih]
    rfl

theorem Exact.eq_flatMap (exact_ : c.Exact encodeChar)
    (decoded : c.decode .refuse position bytes = .ok t) : bytes = t.flatMap encodeChar := by
  fun_induction decode c .refuse position bytes generalizing t with
  | case1 => rw [← Except.ok.inj decoded, List.flatMap_nil]
  | case2 position b rest x more first ih =>
    cases later : c.decode .refuse (position + 1 + more) (rest.drop more) with
    | error flaw => rw [later] at decoded; cases decoded
    | ok xs =>
      rw [later] at decoded
      obtain rfl := Except.ok.inj decoded
      rw [List.flatMap_cons, ← ih later, exact_ b rest x more first, List.cons_append,
        List.take_append_drop]
  | case3 position b rest reason more first refused => cases decoded
  | case4 position b rest reason more first xs mended ih => cases mended

theorem decode_eq_ok_iff (reads : c.Reads encodeChar) (exact_ : c.Exact encodeChar) :
    c.decode .refuse position bytes = .ok t ↔ bytes = t.flatMap encodeChar := by
  constructor
  · exact exact_.eq_flatMap
  · rintro rfl
    exact reads.decode_flatMap .refuse position t

end OpenDocs.Encoding.Codec
