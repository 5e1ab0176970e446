import OpenDocs.Proofs.Disk.Writing
import OpenDocs.Proofs.Encoding.Marks

/-!
# Texts on a disk

A text that was written is read again as it was, every break included. Whatever bytes a file has,
without a mark in front they are read as a text that stands for just these bytes; with one they are
read as the text behind it, but not in UTF-32 with the lowest byte first.
-/

namespace OpenDocs.Disk

open Encoding

variable {d d' : Disk} {p p' : Path} {t : List Char} {bytes : List UInt8}

theorem readText_iff_of_readBytes (held : d.readBytes p = .ok bytes) (policy : String) :
    d.readText p none policy = .ok t ↔ textOf bytes none policy = .ok t := by
  rw [readText_eq_ok_iff, held]
  exact ⟨fun ⟨_, same, read⟩ => Except.ok.inj same ▸ read, fun read => ⟨bytes, rfl, read⟩⟩

/-- The file has the bytes of the text, whether there was a file before or not. -/
theorem readBytes_of_writeText {encoding : String}
    (written : (writeText p t encoding).run.run d = (.ok p', d')) :
    ∃ bytes, encoders.given t encoding = .ok bytes ∧ d'.readBytes p = .ok bytes := by
  rcases writeText_outcome d p t encoding with
    ⟨f, e, failed, _⟩ | ⟨at_, bytes, e, wrote, spelled, located, replaced⟩
  · rw [failed] at written
    cases written
  · rw [wrote] at written
    obtain ⟨_, rfl⟩ := Prod.mk.inj written
    exact ⟨bytes, spelled, readBytes_eq_ok_iff.mpr ⟨at_, located, replaced.file, replaced.free⟩⟩

/-- A text without a mark of its own in front is read as it was written. A file without a mark in
front is read whatever its bytes are, and they are those of the text that is read. -/
theorem text_survives (d : Disk) (p : Path) :
    (∀ t p' d', t.head? ≠ some '\uFEFF' → (writeText p t "utf-8").run.run d = (.ok p', d') →
      ∀ policy, d'.readText p none policy = .ok t) ∧
    ∀ bytes, d.readBytes p = .ok bytes → (∀ e ∈ Scheme.marks, ¬ e.1 <+: bytes) →
      ∃ t, (∀ policy, d.readText p none policy = .ok t) ∧
        (bytes.toByteArray.IsValidUTF8 → (Scheme.utf8 false).encode? t = some bytes) ∧
        (¬ bytes.toByteArray.IsValidUTF8 → Scheme.latin1.encode? t = some bytes) := by
  refine ⟨fun t p' d' plain written policy => ?_, fun bytes held unmarked => ?_⟩
  · obtain ⟨bytes, spelled, held⟩ := readBytes_of_writeText written
    rw [given_utf8] at spelled
    obtain rfl := Except.ok.inj spelled
    exact (readText_iff_of_readBytes held policy).mpr (textOf_encode plain policy)
  · obtain ⟨t, read, valid, invalid⟩ := textOf_unmarked unmarked
    exact ⟨t, fun policy => (readText_iff_of_readBytes held policy).mpr (read policy), valid,
      invalid⟩

theorem text_survives_with_all_breaks_and_in_latin1 :
    let d : Disk := ⟨[(["r"], .directory), (["r", "a"], .file [0x61, 0xE9, 0x0D])], ["r"], ⟨1, []⟩,
      ⟨1, []⟩, [], []⟩
    let t := ['\r', '\n', '\r', '\x00', '😀', '\n']
    let d' := ((writeText ⟨0, ["n", "b"]⟩ t "utf-8").run.run d).2
    d'.readText ⟨0, ["n", "b"]⟩ none "strict" = .ok t ∧
      ∃ u, d.readText ⟨1, ["r", "a"]⟩ none "strict" = .ok u ∧
        Scheme.latin1.encode? u = some [0x61, 0xE9, 0x0D] := by
  intro d t d'
  have wrote : (writeText ⟨0, ["n", "b"]⟩ t "utf-8").run.run d = (.ok ⟨0, ["n", "b"]⟩, d') :=
    Prod.ext (by decide +kernel) rfl
  have invalid : ¬ [0x61, 0xE9, 0x0D].toByteArray.IsValidUTF8 := by
    rw [← Utf8.isSome_decode?_iff]
    decide +kernel
  obtain ⟨u, read, _, same⟩ := (text_survives d ⟨1, ["r", "a"]⟩).2 [0x61, 0xE9, 0x0D]
    (by decide +kernel) (by decide)
  refine ⟨?_, u, read "strict", same invalid⟩
  exact (text_survives d ⟨0, ["n", "b"]⟩).1 t _ d' (by decide) wrote "strict"

/-- With a mark in front, a file is read as the text behind the mark in the scheme that it names, in
all schemes but one. -/
theorem readText_marked_iff {mark : List UInt8} {s : Scheme} (listed : (mark, s) ∈ Scheme.marks)
    (plain : t.head? ≠ some '\uFEFF') (noNul : t.head? ≠ some '\x00') :
    ∃ body, s.body? t = some body ∧ ∀ d p policy, Disk.readBytes d p = .ok (mark ++ body) →
      (d.readText p none policy = .ok t ↔ s ≠ .utf32 (some .little)) := by
  obtain ⟨body, spelled, read⟩ := textOf_marked_iff listed plain noNul
  refine ⟨body, spelled, fun d p policy held => ?_⟩
  rw [readText_iff_of_readBytes held, read]

theorem readText_marked_utf32_big :
    let d : Disk := ⟨[(["a"], .file [0, 0, 0xFE, 0xFF, 0, 1, 0xF6, 0, 0, 0, 0, 0x0D])], [], ⟨1, []⟩,
      ⟨1, []⟩, [], []⟩
    d.readText ⟨1, ["a"]⟩ none "strict" = .ok ['😀', '\r'] := by
  intro d
  have listed : (markUtf32 .big, Scheme.utf32 (some .big)) ∈ Scheme.marks := by decide
  have units : (Scheme.utf32 (some .big)).body? ['😀', '\r'] =
      some [0, 1, 0xF6, 0, 0, 0, 0, 0x0D] := by decide +kernel
  obtain ⟨body, spelled, read⟩ := readText_marked_iff listed (t := ['😀', '\r']) (by decide)
    (by decide)
  obtain rfl := Option.some.inj (units.symm.trans spelled)
  exact (read d ⟨1, ["a"]⟩ "strict" (by decide +kernel)).mpr (by decide)

/-- The mark of UTF-16 is looked for before, and the other begins with it. -/
theorem readText_marked_utf32_little :
    let d : Disk := ⟨[(["a"], .file [0xFF, 0xFE, 0, 0, 0x61, 0, 0, 0])], [], ⟨1, []⟩, ⟨1, []⟩,
      [], []⟩
    let s : Scheme := .utf32 (some .little)
    ∃ mark body, (mark, s) ∈ Scheme.marks ∧ s.body? ['a'] = some body ∧
      d.readBytes ⟨1, ["a"]⟩ = .ok (mark ++ body) ∧
      d.readText ⟨1, ["a"]⟩ none "strict" = .ok ['\x00', 'a', '\x00'] := by
  refine ⟨[0xFF, 0xFE, 0, 0], [0x61, 0, 0, 0], ?_, ?_, ?_, ?_⟩ <;> decide +kernel

end OpenDocs.Disk
