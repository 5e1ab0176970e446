import OpenDocs.Encoding.Front

/-!
# UTF-8

A character takes one to four bytes. The first tells how many follow and bounds the second, so that
no character has two forms and none stands for a surrogate.
-/

namespace OpenDocs.Encoding.Utf8

/-- What the first of several bytes says: its own bits, the bounds of the second byte, and how many
bytes follow. -/
structure Lead where
  bits : Nat
  low : Nat
  high : Nat
  more : Nat

def lead? (b : Nat) : Option Lead :=
  if b < 0xC2 then none
  else if b < 0xE0 then some ⟨b - 0xC0, 0x80, 0xBF, 1⟩
  else if b = 0xE0 then some ⟨0, 0xA0, 0xBF, 2⟩
  else if b = 0xED then some ⟨0xD, 0x80, 0x9F, 2⟩
  else if b < 0xF0 then some ⟨b - 0xE0, 0x80, 0xBF, 2⟩
  else if b = 0xF0 then some ⟨0, 0x90, 0xBF, 3⟩
  else if b < 0xF4 then some ⟨b - 0xF0, 0x80, 0xBF, 3⟩
  else if b = 0xF4 then some ⟨4, 0x80, 0x8F, 3⟩
  else none

/-- Reads the bytes that are owed after `taken` others; the next must be within the bounds. -/
def tails (bits low high taken : Nat) : Nat → List UInt8 → Front
  | 0, _ => .char (Char.ofNat bits) taken
  | _ + 1, [] => .flaw "unexpected end of data" taken
  | owed + 1, b :: rest =>
    if low ≤ b.toNat ∧ b.toNat ≤ high then
      tails (bits * 64 + (b.toNat - 0x80)) 0x80 0xBF (taken + 1) owed rest
    else .flaw "invalid continuation byte" taken

def front (b : UInt8) (rest : List UInt8) : Front :=
  if b.toNat < 0x80 then .char (Char.ofNat b.toNat) 0
  else match lead? b.toNat with
    | none => .flaw "invalid start byte" 0
    | some l => tails l.bits l.low l.high 0 l.more rest

def codec : Codec := ⟨"utf-8", front⟩

def encodeChar (c : Char) : List UInt8 :=
  let n := c.toNat
  if n < 0x80 then [.ofNat n]
  else if n < 0x800 then [.ofNat (0xC0 + n / 64), .ofNat (0x80 + n % 64)]
  else if n < 0x10000 then
    [.ofNat (0xE0 + n / 4096), .ofNat (0x80 + n / 64 % 64), .ofNat (0x80 + n % 64)]
  else
    [.ofNat (0xF0 + n / 262144), .ofNat (0x80 + n / 4096 % 64), .ofNat (0x80 + n / 64 % 64),
      .ofNat (0x80 + n % 64)]

def encode (t : List Char) : List UInt8 := t.flatMap encodeChar

def decode? (bytes : List UInt8) : Option (List Char) :=
  (codec.decode .refuse 0 bytes).toOption

def size (s : String) : Nat := (encode s.toList).length

end OpenDocs.Encoding.Utf8
