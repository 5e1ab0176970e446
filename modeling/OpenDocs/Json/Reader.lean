import OpenDocs.Json.Basic

/-!
# Reading JSON

`Json.readWithin` reads one value with blanks around it. A failure carries the offset, in code
points, of the place where reading stopped. Beyond the standard it knows NaN and the infinities, an
escaped surrogate may stand alone, and of a repeated key the last value counts. Lists and records
may be nested as deep as there is room; how much the reader has depends on the calls it is called
from, and `Json.read` has the usual room.
-/

namespace OpenDocs.Json

/-- What the reader has too little of, whether or not the text is well formed. -/
inductive Limit where
  /-- A whole number of more digits than are converted. -/
  | digits
  /-- Lists and records within one another. -/
  | nesting
  deriving DecidableEq

inductive Flaw where
  | byteOrderMark | valueExpected | keyExpected | colonExpected | commaExpected
  | unterminated | controlCharacter | badEscape | badCodeUnit | extraText
  | beyond (limit : Limit)
  deriving DecidableEq

namespace Flaw

def message : Flaw → String
  | byteOrderMark => "Unexpected UTF-8 BOM (decode using utf-8-sig)"
  | valueExpected => "Expecting value"
  | keyExpected => "Expecting property name enclosed in double quotes"
  | colonExpected => "Expecting ':' delimiter"
  | commaExpected => "Expecting ',' delimiter"
  | unterminated => "Unterminated string starting at"
  | controlCharacter => "Invalid control character at"
  | badEscape => "Invalid \\escape"
  | badCodeUnit => "Invalid \\uXXXX escape"
  | extraText => "Extra data"
  | beyond .digits => "Exceeds the limit for integer string conversion"
  | beyond .nesting => "maximum recursion depth exceeded"

end Flaw

structure Fault where
  flaw : Flaw
  offset : Nat
  deriving DecidableEq

/-- The message, with the line, the column and the offset in the text that was read. -/
def Fault.message (f : Fault) (text : List Char) : String :=
  let before := text.take f.offset
  let line := before.count '\n' + 1
  let column := (before.reverse.takeWhile (· != '\n')).length + 1
  s!"{f.flaw.message}: line {line} column {column} (char {f.offset})"

/-- What is still to be read, and the offset of its first code point. -/
structure Rest where
  chars : List Char
  offset : Nat

def isBlank (c : Char) : Bool := c == ' ' || c == '\t' || c == '\n' || c == '\r'

def skipBlanks : List Char → Nat → Rest
  | [], n => ⟨[], n⟩
  | c :: cs, n => if isBlank c then skipBlanks cs (n + 1) else ⟨c :: cs, n⟩

def hexDigit? (c : Char) : Option Nat :=
  if '0' ≤ c ∧ c ≤ '9' then some (c.toNat - 48)
  else if 'a' ≤ c ∧ c ≤ 'f' then some (c.toNat - 87)
  else if 'A' ≤ c ∧ c ≤ 'F' then some (c.toNat - 55)
  else none

def codeUnit? (a b c d : Char) : Option Nat := do
  let a ← hexDigit? a
  let b ← hexDigit? b
  let c ← hexDigit? c
  let d ← hexDigit? d
  pure (((a * 16 + b) * 16 + c) * 16 + d)

def simpleEscape? : Char → Option Char
  | '"' => some '"'
  | '\\' => some '\\'
  | '/' => some '/'
  | 'b' => some '\x08'
  | 'f' => some '\x0c'
  | 'n' => some '\n'
  | 'r' => some '\r'
  | 't' => some '\t'
  | _ => none

def isHighUnit (n : Nat) : Bool := 0xD800 ≤ n && n ≤ 0xDBFF

def isLowUnit (n : Nat) : Bool := 0xDC00 ≤ n && n ≤ 0xDFFF

def joinUnits (high low : Nat) : Char :=
  Char.ofNat (0x10000 + (high - 0xD800) * 0x400 + (low - 0xDC00))

/-- Reads on to the closing quote of a string opened at `opened`; `done` holds what was read, last
first. -/
def readString (opened : Nat) :
    List Char → Nat → List Text.Point → Except Fault (List Text.Point × Rest)
  | '"' :: rest, n, done => .ok (done.reverse, ⟨rest, n + 1⟩)
  | '\\' :: 'u' :: a :: b :: c :: d :: '\\' :: 'u' :: a' :: b' :: c' :: d' :: rest, n, done =>
    match codeUnit? a b c d, codeUnit? a' b' c' d' with
    | none, _ => .error ⟨.badCodeUnit, n + 1⟩
    | some high, low? =>
      if isHighUnit high && !rest.isEmpty then
        match low? with
        | none => .error ⟨.badCodeUnit, n + 7⟩
        | some low =>
          if isLowUnit low then readString opened rest (n + 12) (.char (joinUnits high low) :: done)
          else readString opened ('\\' :: 'u' :: a' :: b' :: c' :: d' :: rest) (n + 6)
            (.ofUnit high :: done)
      else readString opened ('\\' :: 'u' :: a' :: b' :: c' :: d' :: rest) (n + 6)
        (.ofUnit high :: done)
  | '\\' :: 'u' :: a :: b :: c :: d :: e :: rest, n, done =>
    match codeUnit? a b c d with
    | none => .error ⟨.badCodeUnit, n + 1⟩
    | some u => readString opened (e :: rest) (n + 6) (.ofUnit u :: done)
  | '\\' :: 'u' :: _, n, _ => .error ⟨.badCodeUnit, n + 1⟩
  | ['\\'], _, _ => .error ⟨.unterminated, opened⟩
  | '\\' :: e :: rest, n, done =>
    match simpleEscape? e with
    | some c => readString opened rest (n + 2) (.char c :: done)
    | none => .error ⟨.badEscape, n⟩
  | c :: rest, n, done =>
    if c.toNat ≤ 0x1f then .error ⟨.controlCharacter, n⟩
    else readString opened rest (n + 1) (.char c :: done)
  | [], _, _ => .error ⟨.unterminated, opened⟩
termination_by cs => cs.length

def isDigit (c : Char) : Bool := '0' ≤ c && c ≤ '9'

def natOfDigits (ds : List Char) : Nat := ds.foldl (fun n c => n * 10 + (c.toNat - 48)) 0

/-- The digits after a point, if a point with a digit comes next. -/
def fractionDigits : List Char → List Char × List Char
  | '.' :: cs => if (cs.head?.map isDigit).getD false then cs.span isDigit else ([], '.' :: cs)
  | cs => ([], cs)

/-- The exponent, if a whole one comes next. -/
def exponentPart (cs : List Char) : Option Int × List Char :=
  match cs with
  | e :: more =>
    if e == 'e' || e == 'E' then
      let (negative, digits) := match more with
        | '-' :: ds => (true, ds)
        | '+' :: ds => (false, ds)
        | ds => (false, ds)
      match digits.span isDigit with
      | ([], _) => (none, cs)
      | (ds, rest) =>
        (some (if negative then -(natOfDigits ds : Int) else (natOfDigits ds : Int)), rest)
    else (none, cs)
  | [] => (none, cs)

/-- A number without its sign, from its first digit. -/
def readNumber (negative : Bool) (start : Nat) (cs : List Char) : Except Fault (Json × Rest) :=
  let (whole, rest) : List Char × List Char := match cs with
    | '0' :: more => (['0'], more)
    | _ => cs.span isDigit
  if whole.isEmpty then .error ⟨.valueExpected, start⟩
  else
    let (fraction, rest) := fractionDigits rest
    let (exponent?, rest) := exponentPart rest
    let sign := if negative then 1 else 0
    let next : Rest := ⟨rest, start + sign + (cs.length - rest.length)⟩
    if fraction.isEmpty && exponent?.isNone then
      if maxDigits < whole.length then .error ⟨.beyond .digits, start⟩
      else
        let n : Int := natOfDigits whole
        .ok (.int (if negative then -n else n), next)
    else
      let digits := natOfDigits (whole ++ fraction)
      .ok (.float (.ofDecimal negative digits (exponent?.getD 0 - fraction.length)), next)

def words : List (List Char × Json) :=
  [("null".toList, .null), ("true".toList, .bool true), ("false".toList, .bool false),
   ("NaN".toList, .float .nan), ("Infinity".toList, .float (.infinite false)),
   ("-Infinity".toList, .float (.infinite true))]

/-- A number or one of the fixed words. -/
def readAtom (cs : List Char) (n : Nat) : Except Fault (Json × Rest) :=
  match words.find? fun w => w.1.isPrefixOf cs with
  | some (w, v) => .ok (v, ⟨cs.drop w.length, n + w.length⟩)
  | none =>
    match cs with
    | '-' :: more => readNumber true n more
    | _ => readNumber false n cs

mutual

/-- Reads a value that begins here, with room for so many lists and records within one another;
`fuel` bounds the values still to come. -/
def readValue : Nat → Nat → List Char → Nat → Except Fault (Json × Rest)
  | 0, _, _, n => .error ⟨.valueExpected, n⟩
  | fuel + 1, room, cs, n =>
    match cs with
    | '"' :: rest => (readString n rest (n + 1) []).map fun (ps, r) => (.ofPoints ps, r)
    | '[' :: rest =>
      match room with
      | 0 => .error ⟨.beyond .nesting, n⟩
      | room + 1 =>
        let r := skipBlanks rest (n + 1)
        match r.chars with
        | ']' :: rest => .ok (.list [], ⟨rest, r.offset + 1⟩)
        | _ => readItems fuel room r.chars r.offset []
    | '{' :: rest =>
      match room with
      | 0 => .error ⟨.beyond .nesting, n⟩
      | room + 1 =>
        let r := skipBlanks rest (n + 1)
        match r.chars with
        | '}' :: rest => .ok (.record [], ⟨rest, r.offset + 1⟩)
        | _ => readFields fuel room r.chars r.offset []
    | _ => readAtom cs n
termination_by structural fuel => fuel

def readItems : Nat → Nat → List Char → Nat → List Json → Except Fault (Json × Rest)
  | 0, _, _, n, _ => .error ⟨.valueExpected, n⟩
  | fuel + 1, room, cs, n, done => do
    let (v, r) ← readValue fuel room cs n
    let r := skipBlanks r.chars r.offset
    match r.chars with
    | ']' :: rest => .ok (.list (done ++ [v]), ⟨rest, r.offset + 1⟩)
    | ',' :: rest =>
      let r := skipBlanks rest (r.offset + 1)
      readItems fuel room r.chars r.offset (done ++ [v])
    | _ => .error ⟨.commaExpected, r.offset⟩
termination_by structural fuel => fuel

def readFields : Nat → Nat → List Char → Nat → List (List Text.Point × Json) →
    Except Fault (Json × Rest)
  | 0, _, _, n, _ => .error ⟨.valueExpected, n⟩
  | fuel + 1, room, cs, n, done =>
    match cs with
    | '"' :: rest => do
      let (key, r) ← readString n rest (n + 1) []
      let r := skipBlanks r.chars r.offset
      match r.chars with
      | ':' :: rest =>
        let r := skipBlanks rest (r.offset + 1)
        let (v, r) ← readValue fuel room r.chars r.offset
        let r := skipBlanks r.chars r.offset
        match r.chars with
        | '}' :: rest => .ok (.ofFields (put key v done), ⟨rest, r.offset + 1⟩)
        | ',' :: rest =>
          let r := skipBlanks rest (r.offset + 1)
          readFields fuel room r.chars r.offset (put key v done)
        | _ => .error ⟨.commaExpected, r.offset⟩
      | _ => .error ⟨.colonExpected, r.offset⟩
    | _ => .error ⟨.keyExpected, n⟩
termination_by structural fuel => fuel

end

/-- Reads a whole text. -/
def readWithin (room : Nat) (s : String) : Except Fault Json := do
  let cs := s.toList
  if cs.head? = some '\uFEFF' then throw ⟨.byteOrderMark, 0⟩
  let r := skipBlanks cs 0
  let (v, r) ← readValue (2 * cs.length + 2) room r.chars r.offset
  let r := skipBlanks r.chars r.offset
  if r.chars.isEmpty then pure v else throw ⟨.extraText, r.offset⟩

/-- A thousand calls may be within one another; the reader itself and what calls it take some. -/
def usualRoom : Nat := 990

def read (s : String) : Except Fault Json := readWithin usualRoom s

end OpenDocs.Json
