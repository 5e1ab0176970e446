import OpenDocs.Encoding.Utf8
import OpenDocs.Encoding.Wide

/-!
# Encoding schemes

A scheme says which bytes stand for a text. Some begin the bytes with a mark that names them, and
`detect` goes by that mark; without one, bytes that are valid UTF-8 are read as UTF-8 and all others
as Latin-1.
-/

namespace OpenDocs.Encoding

inductive Scheme where
  | ascii
  | latin1
  | windows1252
  | utf8 (marked : Bool)
  /-- Without a byte order the bytes begin with a mark that tells it. -/
  | utf16 (order : Option ByteOrder)
  | utf32 (order : Option ByteOrder)
  deriving DecidableEq

def asciiCodec : Codec where
  name := "ascii"
  front b _ :=
    if b.toNat < 0x80 then .char (Char.ofNat b.toNat) 0 else .flaw "ordinal not in range(128)" 0

def latin1Codec : Codec where
  name := "latin-1"
  front b _ := .char (Char.ofNat b.toNat) 0

/-- Where Windows-1252 departs from Latin-1, from 0x80 on; 0 stands for no character. -/
def windowsForms : List Nat :=
  [0x20AC, 0, 0x201A, 0x0192, 0x201E, 0x2026, 0x2020, 0x2021, 0x02C6, 0x2030, 0x0160, 0x2039,
    0x0152, 0, 0x017D, 0, 0, 0x2018, 0x2019, 0x201C, 0x201D, 0x2022, 0x2013, 0x2014, 0x02DC,
    0x2122, 0x0161, 0x203A, 0x0153, 0, 0x017E, 0x0178]

def windowsCodec : Codec where
  name := "charmap"
  front b _ :=
    if b.toNat < 0x80 ∨ 0xA0 ≤ b.toNat then .char (Char.ofNat b.toNat) 0
    else match windowsForms[b.toNat - 0x80]? with
      | none | some 0 => .flaw "character maps to <undefined>" 0
      | some n => .char (Char.ofNat n) 0

def markUtf8 : List UInt8 := [0xEF, 0xBB, 0xBF]

def markUtf16 (order : ByteOrder) : List UInt8 := order.arrange [0xFE, 0xFF]

def markUtf32 (order : ByteOrder) : List UInt8 := order.arrange [0, 0, 0xFE, 0xFF]

/-- The byte order that a mark in front tells, lowest byte first without one, and what follows. -/
def orderOf (mark : ByteOrder → List UInt8) (bytes : List UInt8) : ByteOrder × List UInt8 :=
  if (mark .little).isPrefixOf bytes then (.little, bytes.drop (mark .little).length)
  else if (mark .big).isPrefixOf bytes then (.big, bytes.drop (mark .big).length)
  else (.little, bytes)

def decodeFrom (policy : Policy) (bytes rest : List UInt8) (c : Codec) : Except Flaw (List Char) :=
  c.decode policy (bytes.length - rest.length) rest

namespace Scheme

def decode (policy : Policy) (bytes : List UInt8) : Scheme → Except Flaw (List Char)
  | ascii => asciiCodec.decode policy 0 bytes
  | latin1 => latin1Codec.decode policy 0 bytes
  | windows1252 => windowsCodec.decode policy 0 bytes
  | utf8 false => Utf8.codec.decode policy 0 bytes
  | utf8 true =>
    Utf8.codec.decode policy 0 (if markUtf8.isPrefixOf bytes then bytes.drop 3 else bytes)
  | utf16 (some order) => (Utf16.codec order).decode policy 0 bytes
  | utf16 none =>
    let (order, rest) := orderOf markUtf16 bytes
    decodeFrom policy bytes rest (Utf16.codec order)
  | utf32 (some order) => (Utf32.codec order).decode policy 0 bytes
  | utf32 none =>
    let (order, rest) := orderOf markUtf32 bytes
    decodeFrom policy bytes rest (Utf32.codec order)

/-- The bytes of a character; none if the scheme has none for it. -/
def encodeChar? (c : Char) : Scheme → Option (List UInt8)
  | ascii => if c.toNat < 0x80 then some [.ofNat c.toNat] else none
  | latin1 => if c.toNat < 0x100 then some [.ofNat c.toNat] else none
  | windows1252 =>
    if c.toNat < 0x80 ∨ (0xA0 ≤ c.toNat ∧ c.toNat < 0x100) then some [.ofNat c.toNat]
    else if c.toNat = 0 then none
    else (windowsForms.findIdx? (· == c.toNat)).map fun i => [.ofNat (0x80 + i)]
  | utf8 _ => some (Utf8.encodeChar c)
  | utf16 order => some (Utf16.encodeChar (order.getD .little) c)
  | utf32 order => some (Utf32.encodeChar (order.getD .little) c)

/-- The bytes that the encoded text begins with. -/
def mark : Scheme → List UInt8
  | utf8 true => markUtf8
  | utf16 none => markUtf16 .little
  | utf32 none => markUtf32 .little
  | _ => []

def encode? (s : Scheme) (t : List Char) : Option (List UInt8) := do
  let parts ← t.mapM (s.encodeChar? ·)
  pure (s.mark ++ parts.flatten)

/-- Marks in the order in which they are looked for. -/
def marks : List (List UInt8 × Scheme) :=
  [(markUtf8, .utf8 true), (markUtf16 .little, .utf16 (some .little)),
    (markUtf16 .big, .utf16 (some .big)), (markUtf32 .little, .utf32 (some .little)),
    (markUtf32 .big, .utf32 (some .big))]

def detect (bytes : List UInt8) : Scheme :=
  match marks.find? (·.1.isPrefixOf bytes) with
  | some (_, s) => s
  | none => if (Utf8.decode? bytes).isSome then .utf8 false else .latin1

end Scheme

def isNameChar (c : Char) : Bool := c.isAlphanum || c == '.'

/-- Lower case, with one underscore for whatever stands between letters, digits and dots. -/
def plainName (name : String) : String :=
  let runs := name.toList.splitBy fun a b => isNameChar a == isNameChar b
  let words := runs.filter (·.any isNameChar)
  "_".intercalate (words.map fun w => String.ofList (w.map Char.toLower))

def schemeNames : List (List String × Scheme) :=
  [(["ascii", "646", "ansi_x3.4_1968", "ansi_x3_4_1968", "ansi_x3.4_1986", "cp367", "csascii",
      "ibm367", "iso646_us", "iso_646.irv_1991", "iso_ir_6", "us", "us_ascii"], .ascii),
    (["latin_1", "iso8859_1", "8859", "cp819", "csisolatin1", "ibm819", "iso8859", "iso_8859_1",
      "iso_8859_1_1987", "iso_ir_100", "l1", "latin", "latin1"], .latin1),
    (["cp1252", "1252", "windows_1252"], .windows1252),
    (["utf_8", "u8", "utf", "utf8", "utf8_ucs2", "utf8_ucs4", "cp65001"], .utf8 false),
    (["utf_8_sig"], .utf8 true),
    (["utf_16", "u16", "utf16"], .utf16 none),
    (["utf_16_le", "utf_16le", "unicodelittleunmarked"], .utf16 (some .little)),
    (["utf_16_be", "utf_16be", "unicodebigunmarked"], .utf16 (some .big)),
    (["utf_32", "u32", "utf32"], .utf32 none),
    (["utf_32_le", "utf_32le"], .utf32 (some .little)),
    (["utf_32_be", "utf_32be"], .utf32 (some .big))]

def Scheme.named? (name : String) : Option Scheme :=
  (schemeNames.find? (·.1.contains (plainName name))).map (·.2)

/-- Why bytes or a text cannot be read or written as asked. -/
inductive Refusal where
  | unknownScheme (name : String)
  | unknownPolicy (name : String)
  /-- The policy is one for writing. -/
  | unfitPolicy (name : String)
  | undecodable (flaw : Flaw)
  | unencodable (c : Char)
  /-- A lone surrogate has no bytes. -/
  | surrogate
  /-- A part of a host name has no letters or too many. -/
  | badLabel
  deriving DecidableEq

/-- A policy is looked up only where a flaw has to be dealt with. -/
def decodeAs (scheme : Scheme) (policy : String) (bytes : List UInt8) :
    Except Refusal (List Char) :=
  match scheme.decode .refuse bytes with
  | .ok t => .ok t
  | .error flaw =>
    let mended (p : Policy) := (scheme.decode p bytes).mapError .undecodable
    match policy with
    | "strict" => .error (.undecodable flaw)
    | "ignore" => mended .skip
    | "replace" => mended .mark
    | "backslashreplace" => mended .escape
    | "xmlcharrefreplace" | "namereplace" => .error (.unfitPolicy policy)
    | _ => .error (.unknownPolicy policy)

def dropMark : List Char → List Char
  | '\uFEFF' :: rest => rest
  | t => t

/-- The text of a file's bytes, without a mark in front. The scheme is detected if no name is
given; where there are no bytes, a name is not looked at. -/
def textOf (bytes : List UInt8) (scheme? : Option String) (policy : String) :
    Except Refusal (List Char) := do
  if bytes.isEmpty then return []
  let scheme ← match scheme? with
    | none | some "" => pure (Scheme.detect bytes)
    | some name =>
      match Scheme.named? name with
      | some s => pure s
      | none => throw (.unknownScheme name)
  dropMark <$> decodeAs scheme policy bytes
end OpenDocs.Encoding
