import OpenDocs.Encoding.Scheme
import OpenDocs.Text.Cut

/-!
# Encoding a text as it is written

A file that is written takes the bytes as an encoder gives them. An encoder may owe the end of a
text: bytes that it keeps back until it is told that nothing follows. The schemes owe nothing, since
they encode each character by itself. The encoding of host names keeps back the last of the names
between dots, which could still go on. What other encoders there are is left open.
-/

namespace OpenDocs.Encoding

/-- What an encoder has given for a text, and what it still owes. -/
structure Streamed where
  given : List UInt8
  owed : Except Refusal (List UInt8)

/-- All bytes that stand for the text. -/
def Streamed.bytes (s : Streamed) : Except Refusal (List UInt8) := s.owed.map (s.given ++ ·)

/-- Encoders by the names of their encodings. -/
abbrev Encoders := String → Option (List Char → Except Refusal Streamed)

namespace Encoders

def stream (e : Encoders) (t : List Char) (name : String) : Except Refusal Streamed :=
  match e name with
  | none => .error (.unknownScheme name)
  | some encode => encode t

/-- The bytes that are given for a text when nothing is said about its end. -/
def given (e : Encoders) (t : List Char) (name : String) : Except Refusal (List UInt8) :=
  (e.stream t name).map (·.given)

/-- The bytes that stand for a text. -/
def bytesOf (e : Encoders) (t : List Char) (name : String) : Except Refusal (List UInt8) :=
  e.stream t name >>= Streamed.bytes

end Encoders

def Scheme.encoder (s : Scheme) (t : List Char) : Except Refusal Streamed :=
  match s.encode? t with
  | some bytes => .ok ⟨bytes, .ok []⟩
  | none => .error (.unencodable ((t.find? fun c => (s.encodeChar? c).isNone).getD '\x00'))

/-! Host names -/

/-- The characters that count as dots between the names. -/
def hostDots : List Char := ['.', '\u3002', '\uFF0E', '\uFF61']

def hostLabels (t : List Char) : List (List Char) :=
  Text.cut '.' (t.map fun c => if hostDots.contains c then '.' else c)

/-- A name of letters that are written as they are has at most 63 of them. What other letters become
is not told here, and they are refused. -/
def hostLabel (label : List Char) : Except Refusal (List UInt8) :=
  match label.find? (0x80 ≤ ·.toNat) with
  | some c => .error (.unencodable c)
  | none =>
    if label.isEmpty || 64 ≤ label.length then .error .badLabel
    else .ok (label.map fun c => .ofNat c.toNat)

/-- Gives the names with a dot behind each and owes the last, unless a dot is behind that too. -/
def hostEncoder (t : List Char) : Except Refusal Streamed := do
  let labels := hostLabels t
  let given ← labels.dropLast.mapM hostLabel
  let last := labels.getLastD []
  pure ⟨given.flatMap (· ++ [46]), if last.isEmpty then .ok [] else hostLabel last⟩

/-- The encoders that are known here. -/
def encoders : Encoders := fun name =>
  if plainName name = "idna" then some hostEncoder else (Scheme.named? name).map (·.encoder)

end OpenDocs.Encoding
