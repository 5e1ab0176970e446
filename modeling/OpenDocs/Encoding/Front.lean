/-!
# Decoding step by step

Bytes are decoded from the front: at each step stands a character or a flaw, which covers the first
byte and perhaps some more. `decode` goes on behind it until no byte is left.
-/

namespace OpenDocs.Encoding

inductive Front where
  | char (c : Char) (more : Nat)
  | flaw (reason : String) (more : Nat)

/-- Bytes that stand for no character. -/
structure Flaw where
  codec : String
  reason : String
  start : Nat
  first : UInt8
  /-- The bytes after the first that are part of it. -/
  more : Nat
  deriving DecidableEq

def hexDigit (n : Nat) : Char := if n < 10 then Char.ofNat (48 + n) else Char.ofNat (87 + n)

def hexByte (b : UInt8) : List Char := [hexDigit (b.toNat / 16), hexDigit (b.toNat % 16)]

def Flaw.message (f : Flaw) : String :=
  let place :=
    if f.more = 0 then s!"byte 0x{String.ofList (hexByte f.first)} in position {f.start}"
    else s!"bytes in position {f.start}-{f.start + f.more}"
  s!"'{f.codec}' codec can't decode {place}: {f.reason}"

/-- What is done about a flaw. -/
inductive Policy where
  | refuse
  | skip
  /-- A replacement character takes the place of the bytes. -/
  | mark
  /-- The bytes are shown by their numbers. -/
  | escape
  deriving DecidableEq

def Policy.mend (policy : Policy) (bytes : List UInt8) : Option (List Char) :=
  match policy with
  | refuse => none
  | skip => some []
  | mark => some ['\uFFFD']
  | escape => some (bytes.flatMap fun b => '\\' :: 'x' :: hexByte b)

/-- A codec reads the front of what is not empty, given as its first byte and the rest. -/
structure Codec where
  name : String
  front : UInt8 → List UInt8 → Front

namespace Codec

/-- The characters of the bytes, of which the first stands at `position`. -/
def decode (c : Codec) (policy : Policy) (position : Nat) : List UInt8 → Except Flaw (List Char)
  | [] => .ok []
  | b :: rest =>
    match c.front b rest with
    | .char x more => do
      let xs ← decode c policy (position + 1 + more) (rest.drop more)
      pure (x :: xs)
    | .flaw reason more =>
      match policy.mend (b :: rest.take more) with
      | none => .error ⟨c.name, reason, position, b, more⟩
      | some xs => do
        let ys ← decode c policy (position + 1 + more) (rest.drop more)
        pure (xs ++ ys)
termination_by bytes => bytes.length
decreasing_by all_goals simp only [List.length_drop, List.length_cons]; omega

end Codec

end OpenDocs.Encoding
