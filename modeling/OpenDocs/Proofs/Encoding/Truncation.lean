import OpenDocs.Proofs.Encoding.Utf8

/-!
# UTF-8 that is cut short

Where bytes end within a character, what is there of it is one flaw with nothing behind it. So if
flaws are skipped, nothing is read of a character that is cut.
-/

namespace OpenDocs.Encoding

theorem Codec.decode_skip_flaw {c : Codec} {b : UInt8} {rest : List UInt8} {reason : String}
    (flawed : c.front b rest = .flaw reason rest.length) (position : Nat) :
    c.decode .skip position (b :: rest) = .ok [] := by
  rw [decode, flawed]
  simp only [Policy.mend, List.drop_length, decode_nil]
  rfl

namespace Utf8

variable {bits low high taken owed more : Nat} {b : UInt8} {there missing : List UInt8} {c : Char}

/-! ### Sizes -/

theorem length_encodeChar (c : Char) : (encodeChar c).length = c.utf8Size := by
  rw [encodeChar_eq, String.length_utf8EncodeChar]

theorem encode_cons (c : Char) (t : List Char) : encode (c :: t) = encodeChar c ++ encode t :=
  List.flatMap_cons

theorem length_encode (t : List Char) : (encode t).length = (String.ofList t).utf8ByteSize := by
  induction t with
  | nil => rfl
  | cons c t ih =>
    rw [encode_cons, List.length_append, length_encodeChar, ih, String.ofList_cons,
      String.utf8ByteSize_append, String.utf8ByteSize_singleton]

/-! ### What is there of a character -/

theorem more_of_tails {rest : List UInt8}
    (read : tails bits low high taken owed rest = .char c more) : more = taken + owed := by
  induction owed generalizing bits low high taken rest with
  | zero => exact (Front.char.inj read).2.symm
  | succ owed ih =>
    cases rest with
    | nil => cases read
    | cons b rest =>
      rw [tails] at read
      split at read
      · rw [ih read]
        omega
      · cases read

/-- None of the bytes that are there is out of bounds: the only flaw is that they end. -/
theorem tails_of_cut (read : tails bits low high taken owed (there ++ missing) = .char c more)
    (short : there.length < owed) :
    tails bits low high taken owed there =
      .flaw "unexpected end of data" (taken + there.length) := by
  induction there generalizing bits low high taken owed with
  | nil =>
    obtain ⟨owed, rfl⟩ := Nat.exists_eq_succ_of_ne_zero (Nat.ne_of_gt short)
    rfl
  | cons b there ih =>
    obtain ⟨owed, rfl⟩ := Nat.exists_eq_succ_of_ne_zero (Nat.ne_zero_of_lt short)
    rw [List.cons_append, tails] at read
    split at read
    · next within =>
      rw [tails, if_pos within, ih read (Nat.lt_of_succ_lt_succ short), List.length_cons,
        Nat.add_assoc, Nat.add_comm 1]
    · cases read

theorem front_of_cut (read : front b (there ++ missing) = .char c more)
    (short : there.length < more) :
    front b there = .flaw "unexpected end of data" there.length := by
  by_cases one : b.toNat < 0x80
  · rw [front, if_pos one] at read
    obtain ⟨-, rfl⟩ := Front.char.inj read
    exact absurd short (Nat.not_lt_zero _)
  · cases found : lead? b.toNat with
    | none =>
      rw [front, if_neg one, found] at read
      cases read
    | some l =>
      rw [front_of_lead _ found] at read
      rw [front_of_lead _ found]
      have all := more_of_tails read
      rw [Nat.zero_add] at all
      rw [tails_of_cut read (all ▸ short), Nat.zero_add]

theorem decode_skip_take_encodeChar (c : Char) {n : Nat} (short : n < (encodeChar c).length)
    (position : Nat) : codec.decode .skip position ((encodeChar c).take n) = .ok [] := by
  obtain ⟨b, tail, spelled, first⟩ := reads c
  rw [spelled] at short ⊢
  cases n with
  | zero => exact Codec.decode_nil
  | succ n =>
    have kept : (tail.take n).length = n := List.length_take_of_le (Nat.le_of_succ_le_succ short.le)
    have all := first []
    rw [List.append_nil] at all
    have whole : front b (tail.take n ++ tail.drop n) = .char c tail.length := by
      rw [List.take_append_drop]
      exact all
    rw [List.take_succ_cons]
    refine Codec.decode_skip_flaw (front_of_cut whole ?_) position
    rw [kept]
    exact Nat.lt_of_succ_lt_succ short

end Utf8

end OpenDocs.Encoding
