import OpenDocs.Encoding.Scheme
import OpenDocs.Proofs.Disk.Normal
import OpenDocs.Proofs.Encoding.Wide

/-!
# Texts with and without a mark in front

Bytes that begin with a mark are read in the scheme that it names, but for the mark of UTF-32 with
the lowest byte first: it begins with that of UTF-16, which is looked for before. Bytes without a
mark are always read, and their text stands for the same bytes again.
-/

namespace OpenDocs.Encoding

variable {t u : List Char} {bytes : List UInt8} {policy : String}

namespace Scheme

/-- The bytes of the text itself, without a mark in front; none if the scheme has none for one of
its characters. -/
def body? (s : Scheme) (t : List Char) : Option (List UInt8) :=
  (t.mapM (s.encodeChar? ·)).map List.flatten

theorem encode?_eq (s : Scheme) (t : List Char) : s.encode? t = (s.body? t).map (s.mark ++ ·) := by
  rw [encode?, body?]
  cases t.mapM (s.encodeChar? ·) <;> rfl

theorem body?_of_total {s : Scheme} {encodeChar : Char → List UInt8}
    (total : ∀ c, s.encodeChar? c = some (encodeChar c)) (t : List Char) :
    s.body? t = some (t.flatMap encodeChar) := by
  have parts : t.mapM (s.encodeChar? ·) = some (t.map encodeChar) := by
    simp only [total]
    exact List.mapM_pure
  rw [body?, parts]
  rfl

end Scheme

/-! ### Reading by what the bytes suggest -/

theorem dropMark_eq_self (plain : t.head? ≠ some '\uFEFF') : dropMark t = t := by
  rw [dropMark.eq_def]
  split
  · exact absurd rfl plain
  · rfl

theorem decodeAs_of_ok {s : Scheme} (decoded : s.decode .refuse bytes = .ok t) :
    decodeAs s policy bytes = .ok t := by
  rw [decodeAs, decoded]

theorem exists_of_decodeAs {s : Scheme} (read : decodeAs s policy bytes = .ok t) :
    ∃ p : Policy, s.decode p bytes = .ok t := by
  rw [decodeAs] at read
  split at read
  · next decoded =>
    obtain rfl := Except.ok.inj read
    exact ⟨.refuse, decoded⟩
  · dsimp only at read
    split at read
    · cases read
    · exact ⟨.skip, mapError_eq_ok_iff.mp read⟩
    · exact ⟨.mark, mapError_eq_ok_iff.mp read⟩
    · exact ⟨.escape, mapError_eq_ok_iff.mp read⟩
    · cases read
    · cases read
    · cases read

theorem textOf_eq_ok_iff (filled : bytes ≠ []) : textOf bytes none policy = .ok t ↔
    ∃ u, decodeAs (Scheme.detect bytes) policy bytes = .ok u ∧ dropMark u = t := by
  have some_ : bytes.isEmpty = false := by simpa using filled
  simp only [textOf, some_]
  change (dropMark <$> decodeAs (Scheme.detect bytes) policy bytes) = _ ↔ _
  cases decodeAs (Scheme.detect bytes) policy bytes with
  | error r => exact iff_of_false nofun (by simp)
  | ok u => simp [Functor.map, Except.map]

/-- Without a name and a policy of its own, reading fails at bytes that stand for nothing only. -/
theorem undecodable_of_textOf_error {r : Refusal} (refused : textOf bytes none "strict" = .error r) :
    ∃ flaw, r = .undecodable flaw := by
  by_cases filled : bytes.isEmpty = true
  · simp only [textOf, filled] at refused
    cases refused
  · simp only [textOf, filled] at refused
    change (dropMark <$> decodeAs (Scheme.detect bytes) "strict" bytes) = _ at refused
    rw [decodeAs] at refused
    split at refused
    · cases refused
    · exact ⟨_, (Except.error.inj refused).symm⟩

/-! ### Bytes with a mark -/

namespace Scheme

theorem detect_marked_utf8 (rest : List UInt8) : detect (markUtf8 ++ rest) = utf8 true := rfl

theorem detect_marked_utf16 (order : ByteOrder) (rest : List UInt8) :
    detect (markUtf16 order ++ rest) = utf16 (some order) := by
  cases order <;> rfl

theorem detect_marked_utf32_big (rest : List UInt8) :
    detect (markUtf32 .big ++ rest) = utf32 (some .big) := rfl

/-- The mark begins with that of UTF-16. -/
theorem detect_marked_utf32_little (rest : List UInt8) :
    detect (markUtf32 .little ++ rest) = utf16 (some .little) := rfl

end Scheme

theorem markUtf16_eq (order : ByteOrder) : markUtf16 order = Utf16.encodeChar order '\uFEFF' := by
  cases order <;> rfl

theorem markUtf32_big : markUtf32 .big = Utf32.encodeChar .big '\uFEFF' := rfl

theorem textOf_of_decode {s : Scheme} (detected : Scheme.detect bytes = s) (filled : bytes ≠ [])
    (decoded : s.decode .refuse bytes = .ok u) : textOf bytes none policy = .ok (dropMark u) :=
  (textOf_eq_ok_iff filled).mpr ⟨u, detected ▸ decodeAs_of_ok decoded, rfl⟩

/-- A codec reads the mark as a character, which is then dropped. -/
theorem textOf_marked {s : Scheme} {c : Codec} {mark : List UInt8} {encodeChar : Char → List UInt8}
    (reads : c.Reads encodeChar) (spelled : mark = encodeChar '\uFEFF')
    (decodes : ∀ bytes, s.decode .refuse bytes = c.decode .refuse 0 bytes)
    (detected : Scheme.detect (mark ++ t.flatMap encodeChar) = s) :
    textOf (mark ++ t.flatMap encodeChar) none policy = .ok t := by
  have filled : mark ++ t.flatMap encodeChar ≠ [] := by
    obtain ⟨b, tail, bytes, _⟩ := reads '\uFEFF'
    simp [spelled, bytes]
  refine textOf_of_decode (u := '\uFEFF' :: t) detected filled ?_
  rw [decodes, spelled, ← List.flatMap_cons, reads.decode_flatMap]

theorem textOf_marked_utf8 (plain : t.head? ≠ some '\uFEFF') :
    textOf (markUtf8 ++ Utf8.encode t) none policy = .ok t := by
  have decoded : (Scheme.utf8 true).decode .refuse (markUtf8 ++ Utf8.encode t) = .ok t :=
    Utf8.reads.decode_flatMap .refuse 0 t
  rw [textOf_of_decode (Scheme.detect_marked_utf8 _) (List.cons_ne_nil _ _) decoded,
    dropMark_eq_self plain]

/-- No text but one with NUL in front is read behind the mark of UTF-32 with the lowest byte
first: the mark's end is read as a NUL. -/
theorem textOf_marked_utf32_little {rest : List UInt8} (noNul : t.head? ≠ some '\x00') :
    textOf (markUtf32 .little ++ rest) none policy ≠ .ok t := by
  intro seen
  have filled : markUtf32 .little ++ rest ≠ [] := List.cons_ne_nil _ _
  obtain ⟨u, read, rfl⟩ := (textOf_eq_ok_iff filled).mp seen
  rw [Scheme.detect_marked_utf32_little] at read
  obtain ⟨p, decoded⟩ := exists_of_decodeAs read
  have units : markUtf32 .little ++ rest =
      Utf16.encodeChar .little '\uFEFF' ++ (Utf16.encodeChar .little '\x00' ++ rest) := rfl
  obtain ⟨second, first⟩ := (Utf16.reads .little).exists_decode p 0 '\uFEFF'
    (Utf16.encodeChar .little '\x00' ++ rest)
  obtain ⟨behind, next⟩ := (Utf16.reads .little).exists_decode p second '\x00' rest
  change (Utf16.codec .little).decode p 0 (markUtf32 .little ++ rest) = .ok u at decoded
  rw [units, first, next] at decoded
  cases later : (Utf16.codec .little).decode p behind rest with
  | error flaw =>
    rw [later] at decoded
    cases decoded
  | ok v =>
    rw [later] at decoded
    obtain rfl := Except.ok.inj decoded
    exact noNul rfl

/-- Bytes with a mark are read as the text in that mark's scheme, in all schemes but one. -/
theorem textOf_marked_iff {mark : List UInt8} {s : Scheme} (listed : (mark, s) ∈ Scheme.marks)
    (plain : t.head? ≠ some '\uFEFF') (noNul : t.head? ≠ some '\x00') :
    ∃ body, s.body? t = some body ∧ ∀ policy,
      textOf (mark ++ body) none policy = .ok t ↔ s ≠ .utf32 (some .little) := by
  simp only [Scheme.marks, List.mem_cons, List.not_mem_nil, or_false, Prod.mk.injEq] at listed
  rcases listed with ⟨rfl, rfl⟩ | ⟨rfl, rfl⟩ | ⟨rfl, rfl⟩ | ⟨rfl, rfl⟩ | ⟨rfl, rfl⟩
  · refine ⟨_, Scheme.body?_of_total (fun _ => rfl) t, fun policy => ?_⟩
    exact iff_of_true (textOf_marked_utf8 plain) nofun
  · refine ⟨_, Scheme.body?_of_total (fun _ => rfl) t, fun policy => ?_⟩
    exact iff_of_true (textOf_marked (Utf16.reads .little) (markUtf16_eq .little) (fun _ => rfl)
      (Scheme.detect_marked_utf16 .little _)) nofun
  · refine ⟨_, Scheme.body?_of_total (fun _ => rfl) t, fun policy => ?_⟩
    exact iff_of_true (textOf_marked (Utf16.reads .big) (markUtf16_eq .big) (fun _ => rfl)
      (Scheme.detect_marked_utf16 .big _)) nofun
  · refine ⟨_, Scheme.body?_of_total (fun _ => rfl) t, fun policy => ?_⟩
    exact iff_of_false (textOf_marked_utf32_little noNul) fun other => other rfl
  · refine ⟨_, Scheme.body?_of_total (fun _ => rfl) t, fun policy => ?_⟩
    exact iff_of_true (textOf_marked (Utf32.reads .big) markUtf32_big (fun _ => rfl)
      (Scheme.detect_marked_utf32_big _)) nofun

/-! ### Bytes without a mark -/

theorem Scheme.detect_of_unmarked (unmarked : ∀ e ∈ marks, ¬ e.1 <+: bytes) :
    detect bytes = if (Utf8.decode? bytes).isSome then utf8 false else latin1 := by
  have none_ : marks.find? (·.1.isPrefixOf bytes) = none := by
    rw [List.find?_eq_none]
    intro e listed
    rw [List.isPrefixOf_iff_prefix]
    exact unmarked e listed
  rw [detect, none_]

theorem Utf8.isSome_decode?_iff :
    (decode? bytes).isSome = true ↔ bytes.toByteArray.IsValidUTF8 := by
  have read (t : List Char) : bytes = encode t ↔ codec.decode .refuse 0 bytes = .ok t :=
    decode_eq_ok_iff.symm
  simp only [isValidUTF8_iff, read, decode?]
  cases codec.decode .refuse 0 bytes <;> simp [Except.toOption]

theorem Utf8.decode?_encode (t : List Char) : decode? (encode t) = some t := by
  rw [decode?, decode_eq_ok_iff.mpr rfl]
  rfl

theorem Utf8.encode_injective : Function.Injective encode := by
  intro t u same
  have read : codec.decode .refuse 0 (encode u) = .ok t := decode_eq_ok_iff.mpr same.symm
  rw [decode_eq_ok_iff.mpr rfl] at read
  exact (Except.ok.inj read).symm

theorem head?_ne_of_unmarked (unmarked : ∀ e ∈ Scheme.marks, ¬ e.1 <+: Utf8.encode t) :
    t.head? ≠ some '\uFEFF' := by
  intro marked
  obtain ⟨rest, rfl⟩ := List.head?_eq_some_iff.mp marked
  exact unmarked (markUtf8, .utf8 true) List.mem_cons_self ⟨Utf8.encode rest, rfl⟩

theorem decode_latin1 (position : Nat) (bytes : List UInt8) :
    latin1Codec.decode .refuse position bytes = .ok (bytes.map fun b => Char.ofNat b.toNat) := by
  induction bytes generalizing position with
  | nil => exact Codec.decode_nil
  | cons b bytes ih =>
    have first : latin1Codec.front b bytes = .char (Char.ofNat b.toNat) 0 := rfl
    rw [Codec.decode_cons_char first, List.drop_zero, ih]
    rfl

theorem toNat_latin1 (b : UInt8) : (Char.ofNat b.toNat).toNat = b.toNat := by
  have small := b.toNat_lt
  exact toNat_ofNat_char (by omega)

theorem encode?_latin1 (bytes : List UInt8) :
    Scheme.latin1.encode? (bytes.map fun b => Char.ofNat b.toNat) = some bytes := by
  have one (b : UInt8) : Scheme.latin1.encodeChar? (Char.ofNat b.toNat) = some [b] := by
    have small := b.toNat_lt
    simp only [Scheme.encodeChar?]
    rw [toNat_latin1, if_pos (by omega), UInt8.ofNat_toNat]
  have parts : (bytes.map fun b => Char.ofNat b.toNat).mapM (Scheme.latin1.encodeChar? ·) =
      some (bytes.map ([·])) := by
    induction bytes with
    | nil => rfl
    | cons b bytes ih => rw [List.map_cons, List.mapM_cons, one, ih]; rfl
  rw [Scheme.encode?_eq, Scheme.body?, parts, Option.map_some, ← List.flatMap_def,
    List.flatMap_singleton']
  rfl

theorem encode?_utf8 (t : List Char) : (Scheme.utf8 false).encode? t = some (Utf8.encode t) := by
  rw [Scheme.encode?_eq, Scheme.body?_of_total (fun _ => rfl)]
  rfl

/-- Bytes without a mark are always read, whatever they are: as UTF-8 if they are valid, and
otherwise each as a character. -/
theorem textOf_unmarked (unmarked : ∀ e ∈ Scheme.marks, ¬ e.1 <+: bytes) :
    ∃ t, (∀ policy, textOf bytes none policy = .ok t) ∧
      (bytes.toByteArray.IsValidUTF8 → (Scheme.utf8 false).encode? t = some bytes) ∧
      (¬ bytes.toByteArray.IsValidUTF8 → Scheme.latin1.encode? t = some bytes) := by
  have detected := Scheme.detect_of_unmarked unmarked
  by_cases valid : bytes.toByteArray.IsValidUTF8
  · rw [if_pos (Utf8.isSome_decode?_iff.mpr valid)] at detected
    obtain ⟨t, rfl⟩ := Utf8.isValidUTF8_iff.mp valid
    refine ⟨t, fun policy => ?_, fun _ => encode?_utf8 t, fun invalid => absurd valid invalid⟩
    by_cases none_ : Utf8.encode t = Utf8.encode []
    · obtain rfl := Utf8.encode_injective none_
      rfl
    · have decoded : (Scheme.utf8 false).decode .refuse (Utf8.encode t) = .ok t :=
        Utf8.decode_eq_ok_iff.mpr rfl
      rw [textOf_of_decode detected none_ decoded, dropMark_eq_self (head?_ne_of_unmarked unmarked)]
  · rw [if_neg (mt Utf8.isSome_decode?_iff.mp valid)] at detected
    have filled : bytes ≠ [] := by
      rintro rfl
      exact valid (Utf8.isValidUTF8_iff.mpr ⟨[], rfl⟩)
    refine ⟨_, fun policy => ?_, fun valid' => absurd valid' valid, fun _ => encode?_latin1 bytes⟩
    rw [textOf_of_decode detected filled (decode_latin1 0 bytes), dropMark_eq_self]
    cases bytes with
    | nil => exact nofun
    | cons b bytes =>
      intro marked
      have value := congrArg Char.toNat (Option.some.inj marked)
      have small := b.toNat_lt
      rw [toNat_latin1] at value
      change b.toNat = 0xFEFF at value
      omega

/-! ### What is written has no mark -/

/-- The bytes of a text have a mark in front only if the text has. -/
theorem unmarked_encode (plain : t.head? ≠ some '\uFEFF') :
    ∀ e ∈ Scheme.marks, ¬ e.1 <+: Utf8.encode t := by
  -- All marks but that of UTF-8 have a byte that UTF-8 never uses.
  have wide {mark : List UInt8} (held : (0xFE : UInt8) ∈ mark) : ¬ mark <+: Utf8.encode t :=
    fun front => absurd (Utf8.lt_of_mem_encode (front.mem held)) (by decide)
  simp only [Scheme.marks, List.forall_mem_cons]
  refine ⟨?_, wide (by decide), wide (by decide), wide (by decide), wide (by decide), nofun⟩
  rintro ⟨rest, front⟩
  cases t with
  | nil => cases front
  | cons x t =>
    obtain ⟨b, tail, spelled, first⟩ := Utf8.reads x
    rw [Utf8.encode, List.flatMap_cons, spelled] at front
    obtain ⟨rfl, behind⟩ := List.cons.inj front
    have read := first (t.flatMap Utf8.encodeChar)
    have mark : Utf8.codec.front 0xEF (0xBB :: 0xBF :: rest) = .char '\uFEFF' 2 := rfl
    change 0xBB :: 0xBF :: rest = tail ++ t.flatMap Utf8.encodeChar at behind
    rw [← behind, mark] at read
    exact plain (congrArg some (Front.char.inj read).1.symm)

theorem textOf_encode (plain : t.head? ≠ some '\uFEFF') (policy : String) :
    textOf (Utf8.encode t) none policy = .ok t := by
  obtain ⟨u, read, spelled, _⟩ := textOf_unmarked (unmarked_encode plain)
  have same := spelled (Utf8.isValidUTF8_iff.mpr ⟨t, rfl⟩)
  rw [encode?_utf8] at same
  rw [read, Utf8.encode_injective (Option.some.inj same)]

end OpenDocs.Encoding
