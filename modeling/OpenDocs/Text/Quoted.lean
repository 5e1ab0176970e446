import OpenDocs.Text.Classes
import OpenDocs.Text.Point

/-!
# Quoted text

A text is shown between apostrophes, or between quotation marks if it holds apostrophes and no
quotation marks. Code points that would not show are escaped by number.
-/

namespace OpenDocs.Text

def hexDigits (width n : Nat) : List Char :=
  let ds := Nat.toDigits 16 n
  List.replicate (width - ds.length) '0' ++ ds

def showChar (mark c : Char) : List Char :=
  if c = mark ∨ c = '\\' then ['\\', c]
  else if c = '\t' then ['\\', 't']
  else if c = '\n' then ['\\', 'n']
  else if c = '\r' then ['\\', 'r']
  else if isPrintable c then [c]
  else if c.toNat < 0x100 then '\\' :: 'x' :: hexDigits 2 c.toNat
  else if c.toNat < 0x10000 then '\\' :: 'u' :: hexDigits 4 c.toNat
  else '\\' :: 'U' :: hexDigits 8 c.toNat

def quote (s : String) : String :=
  let cs := s.toList
  let mark := if cs.contains '\'' && !cs.contains '"' then '"' else '\''
  String.ofList (mark :: cs.flatMap (showChar mark) ++ [mark])

def surrogateEscape (n : Nat) : List Char := '\\' :: 'u' :: hexDigits 4 (0xD800 + n)

def quotePoints (ps : List Point) : String :=
  let mark := if ps.contains (.char '\'') && !ps.contains (.char '"') then '"' else '\''
  let shown : Point → List Char
    | .char c => showChar mark c
    | .surrogate n => surrogateEscape n
  String.ofList (mark :: ps.flatMap shown ++ [mark])

/-- The text with each lone surrogate by its number. -/
def escaped (ps : List Point) : String :=
  String.ofList (ps.flatMap fun p => match p with
    | .char c => [c]
    | .surrogate n => surrogateEscape n)

/-- A list of quoted texts. -/
def quoteAll (texts : List String) : String := "[" ++ ", ".intercalate (texts.map quote) ++ "]"

end OpenDocs.Text
