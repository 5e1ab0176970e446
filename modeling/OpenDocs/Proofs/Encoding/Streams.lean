import OpenDocs.Encoding.Stream
import OpenDocs.Proofs.Steps
import Mathlib

/-!
# What encoders owe

What was given for a text is its encoding just when nothing is owed. The schemes owe nothing.
-/

namespace OpenDocs.Encoding

variable {e : Encoders} {t : List Char} {name : String} {s : Streamed} {scheme : Scheme}
  {bytes : List UInt8}

theorem Streamed.bytes_eq_given_iff (s : Streamed) :
    s.bytes = .ok s.given ↔ s.owed = .ok [] := by
  obtain ⟨given, owed⟩ := s
  cases owed with
  | error refusal => simp [bytes, Except.map]
  | ok rest => simp [bytes, Except.map]

theorem Encoders.given_eq_ok_iff :
    e.given t name = .ok bytes ↔ ∃ s, e.stream t name = .ok s ∧ s.given = bytes := by
  rw [given]
  cases e.stream t name <;> simp [Except.map]

theorem Encoders.bytesOf_of_stream (streamed : e.stream t name = .ok s) :
    e.bytesOf t name = s.bytes := by
  rw [bytesOf, streamed]
  rfl

theorem Scheme.encoder_eq_ok_iff :
    scheme.encoder t = .ok s ↔ scheme.encode? t = some s.given ∧ s.owed = .ok [] := by
  obtain ⟨given, owed⟩ := s
  rw [encoder]
  cases scheme.encode? t with
  | none => simp
  | some bytes => simp [eq_comm]

/-- No scheme goes by the name of the encoding of host names. -/
theorem encoders_of_named (known : Scheme.named? name = some scheme) :
    encoders name = some scheme.encoder := by
  have other : plainName name ≠ "idna" := by
    intro same
    rw [Scheme.named?, same] at known
    have unlisted : schemeNames.find? (·.1.contains "idna") = none := by decide
    rw [unlisted] at known
    cases known
  rw [encoders, if_neg other, known]
  rfl

end OpenDocs.Encoding
