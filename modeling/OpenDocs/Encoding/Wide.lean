import OpenDocs.Encoding.Front

/-!
# UTF-16 and UTF-32

Units of two or four bytes, with the lowest or the highest byte first. In UTF-16 a character above
0xFFFF takes a high and a low surrogate.
-/

namespace OpenDocs.Encoding

inductive ByteOrder where
  | little
  | big
  deriving DecidableEq

namespace ByteOrder

def shortName : ByteOrder → String
  | little => "le"
  | big => "be"

/-- The bytes of a unit, arranged from the highest to the lowest or back. -/
def arrange (order : ByteOrder) (bytes : List UInt8) : List UInt8 :=
  match order with
  | little => bytes.reverse
  | big => bytes

/-- The number that arranged bytes stand for. -/
def number (order : ByteOrder) (bytes : List UInt8) : Nat :=
  (order.arrange bytes).foldl (fun n b => n * 256 + b.toNat) 0

end ByteOrder

namespace Utf16

def isHigh (n : Nat) : Bool := 0xD800 ≤ n && n < 0xDC00

def isLow (n : Nat) : Bool := 0xDC00 ≤ n && n < 0xE000

def front (order : ByteOrder) (b : UInt8) (rest : List UInt8) : Front :=
  match rest with
  | [] => .flaw "truncated data" 0
  | b₁ :: rest =>
    let unit := order.number [b, b₁]
    if isLow unit then .flaw "illegal encoding" 1
    else if isHigh unit then
      match rest with
      | b₂ :: b₃ :: _ =>
        let next := order.number [b₂, b₃]
        if isLow next then
          .char (Char.ofNat (0x10000 + (unit - 0xD800) * 0x400 + (next - 0xDC00))) 3
        else .flaw "illegal UTF-16 surrogate" 1
      | _ => .flaw "unexpected end of data" (1 + rest.length)
    else .char (Char.ofNat unit) 1

def codec (order : ByteOrder) : Codec := ⟨"utf-16-" ++ order.shortName, front order⟩

def unit (order : ByteOrder) (n : Nat) : List UInt8 :=
  order.arrange [.ofNat (n / 256), .ofNat (n % 256)]

def encodeChar (order : ByteOrder) (c : Char) : List UInt8 :=
  let n := c.toNat
  if n < 0x10000 then unit order n
  else unit order (0xD800 + (n - 0x10000) / 0x400) ++ unit order (0xDC00 + (n - 0x10000) % 0x400)

end Utf16

namespace Utf32

def front (order : ByteOrder) (b : UInt8) (rest : List UInt8) : Front :=
  match rest with
  | b₁ :: b₂ :: b₃ :: _ =>
    let n := order.number [b, b₁, b₂, b₃]
    if 0xD800 ≤ n ∧ n < 0xE000 then .flaw "code point in surrogate code point range" 3
    else if n < 0x110000 then .char (Char.ofNat n) 3
    else .flaw "code point not in range(0x110000)" 3
  | _ => .flaw "truncated data" rest.length

def codec (order : ByteOrder) : Codec := ⟨"utf-32-" ++ order.shortName, front order⟩

def encodeChar (order : ByteOrder) (c : Char) : List UInt8 :=
  let n := c.toNat
  order.arrange
    [.ofNat (n / 0x1000000), .ofNat (n / 0x10000 % 256), .ofNat (n / 256 % 256), .ofNat (n % 256)]

end Utf32

end OpenDocs.Encoding
