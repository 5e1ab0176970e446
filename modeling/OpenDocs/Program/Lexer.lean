import OpenDocs.Program.Number
import OpenDocs.Program.Token
import OpenDocs.Text.Classes

/-!
# From text to tokens

Lines are ended by line feeds. The first visible token of a line is preceded by an indent or by
dedents if the line is indented otherwise than the one before; inside brackets neither these nor
line ends count.
-/

namespace OpenDocs.Program

/-- All line breaks become line feeds, and the last line gets one. -/
def normalizeFrom : List Char → List Char
  | [] => ['\n']
  | ['\n'] => ['\n']
  | ['\r'] => ['\n']
  | '\r' :: '\n' :: cs => '\n' :: normalizeFrom cs
  | '\r' :: cs => '\n' :: normalizeFrom cs
  | c :: cs => c :: normalizeFrom cs

def keywords : List String :=
  ["False", "None", "True", "and", "as", "assert", "async", "await", "break", "class", "continue",
    "def", "del", "elif", "else", "except", "finally", "for", "from", "global", "if", "import",
    "in", "is", "lambda", "nonlocal", "not", "or", "pass", "raise", "return", "try", "while",
    "with", "yield"]

/-- Operators, the longer ones first. -/
def operators : List (List Char) :=
  ["**=", "//=", ">>=", "<<=", "...", "!=", "->", ":=", "==", "<=", ">=", "<<", ">>", "**", "//",
    "+=", "-=", "*=", "/=", "%=", "&=", "|=", "^=", "@=", "+", "-", "*", "/", "%", "@", "&", "|",
    "^", "~", "<", ">", "(", ")", "[", "]", ",", ":", ".", ";", "="].map String.toList
    ++ [['\x7b'], ['\x7d']]

def stringMarks : List String := ["", "b", "u", "r", "f", "br", "rb", "fr", "rf"]

def closing : Char → Option Char
  | '(' => some ')'
  | '[' => some ']'
  | '\x7b' => some '\x7d'
  | _ => none

/-- The text behind a string, from behind its opening marks; `found` counts the marks met in a
row. -/
def stringEnd? (mark : Char) (size : Nat) : Nat → List Char → Option (List Char)
  | _, [] => none
  | found, c :: cs =>
    if c = mark then
      if found + 1 = size then some cs else stringEnd? mark size (found + 1) cs
    else if c = '\\' then
      match cs with
      | [] => none
      | _ :: more => stringEnd? mark size 0 more
    else if c = '\n' ∧ size = 1 then none
    else stringEnd? mark size 0 cs

/-- What is behind the string that begins with this mark. -/
def stringAfter? : List Char → Option (List Char)
  | a :: b :: c :: cs =>
    if a = b ∧ b = c then stringEnd? a 3 0 cs
    else if a = b then some (c :: cs)
    else stringEnd? a 1 0 (b :: c :: cs)
  | [a, b] => if a = b then some [] else none
  | _ => none

/-- The width of a line's indentation: with tabs that fill up to a multiple of eight, and with tabs
of width one. Both decide, so that no indentation depends on the width of a tab. -/
structure Indent where
  wide : Nat
  narrow : Nat
  deriving DecidableEq

namespace Indent

def zero : Indent := ⟨0, 0⟩

/-- The indentation that begins a line, where the line goes on, and whether all is well. The first
indentation before a line continuation counts for what follows it. -/
def measure (now : Indent) (continued : Nat) (place : Place) :
    List Char → Option (Indent × Place × List Char)
  | ' ' :: cs => measure ⟨now.wide + 1, now.narrow + 1⟩ continued (place.next ' ') cs
  | '\t' :: cs =>
    measure ⟨(now.wide / 8 + 1) * 8, now.narrow + 1⟩ continued (place.next '\t') cs
  | '\x0c' :: cs => measure zero continued (place.next '\x0c') cs
  | '\\' :: '\n' :: cs =>
    if cs.isEmpty then none
    else measure now (if continued = 0 then now.wide else continued) ⟨place.line + 1, 0⟩ cs
  | '\\' :: _ => none
  | cs => some (if continued = 0 then now else ⟨continued, continued⟩, place, cs)

end Indent

structure LexState where
  place : Place
  rest : List Char
  /-- The closing brackets that are waited for, the next one first. -/
  brackets : List Char
  /-- The indentations that are open, the last one first; the outermost is not listed. -/
  indents : List Indent
  lineStart : Bool
  /-- The last token first. -/
  done : List Token

namespace LexState

/-- Goes on behind the next `n` code points. -/
def skip (s : LexState) (n : Nat) : LexState :=
  { s with place := s.place.past (s.rest.take n), rest := s.rest.drop n }

/-- Adds a token made of the text up to `rest`. -/
def push (s : LexState) (kind : TokenKind) (rest : List Char) : LexState :=
  let chars := s.rest.take (s.rest.length - rest.length)
  let stop := s.place.past chars
  { s with place := stop, rest, done := ⟨kind, String.ofList chars, s.place, stop⟩ :: s.done }

def layout (s : LexState) (kind : TokenKind) : LexState :=
  { s with done := ⟨kind, "", s.place, s.place⟩ :: s.done }

/-- Closes the indentations beyond the given one, which must be open. -/
def dedent (i : Indent) : List Indent → LexState → Option LexState
  | [], s => if i.wide = 0 ∧ i.narrow = 0 then some { s with indents := [] } else none
  | open_ :: outer, s =>
    if i.wide < open_.wide then dedent i outer (s.layout .dedent)
    else if i = open_ then some { s with indents := open_ :: outer } else none

def maxIndents : Nat := 100

def indentTo (s : LexState) (i : Indent) : Option LexState :=
  let now := s.indents.head?.getD .zero
  if i.wide = now.wide then if i.narrow = now.narrow then some s else none
  else if now.wide < i.wide then
    if i.narrow ≤ now.narrow ∨ maxIndents ≤ s.indents.length + 1 then none
    else some ({ s with indents := i :: s.indents }.layout .indent)
  else dedent i s.indents s

/-- Reads the indentation of a line; an empty line has none, nor has one inside brackets. -/
def startLine (s : LexState) : Option LexState := do
  let (i, place, rest) ← Indent.measure .zero 0 s.place s.rest
  let s := { s with place, rest, lineStart := false }
  let blank := match rest with
    | '#' :: _ | '\n' :: _ => true
    | _ => false
  if s.brackets.isEmpty && !blank then s.indentTo i
  else if blank && s.brackets.isEmpty then
    -- The line end of a line without tokens is no token either.
    let more := rest.dropWhile (· != '\n')
    some { s.skip (rest.length - more.length + 1) with lineStart := true }
  else some s

def name (s : LexState) : Option LexState :=
  let rest := s.rest.dropWhile isNamePart
  let chars := s.rest.take (s.rest.length - rest.length)
  let word := String.ofList chars
  let marked := match rest with
    | q :: _ => (q == '\'' || q == '"') && stringMarks.contains (word.map Char.toLower)
    | [] => false
  if marked then (stringAfter? rest).map (s.push .string)
  else if chars.all (·.toNat < 128) || Text.isIdentifier chars then
    some (s.push (if keywords.contains word then .word else .name) rest)
  else none

def maxBrackets : Nat := 200

/-- Keeps account of the brackets, of which `c` is one or not. -/
def bracket (s : LexState) (c : Char) : Option LexState :=
  match closing c with
  | some e =>
    if s.brackets.length < maxBrackets then some { s with brackets := e :: s.brackets } else none
  | none =>
    if c = ')' ∨ c = ']' ∨ c = '\x7d' then
      match s.brackets with
      | e :: outer => if e = c then some { s with brackets := outer } else none
      | [] => none
    else some s

def operator (s : LexState) : Option LexState :=
  match operators.find? (·.isPrefixOf s.rest) with
  | some [c] => (s.push .word (s.rest.drop 1)).bracket c
  | some op => some (s.push .word (s.rest.drop op.length))
  | none => none

/-- Reads one token, or one piece of text that is none. -/
def step (s : LexState) : Option LexState :=
  match s.rest with
  | [] => none
  | c :: cs =>
    if c = ' ' ∨ c = '\t' ∨ c = '\x0c' then some (s.skip 1)
    else if c = '#' then some (s.skip (s.rest.takeWhile (· != '\n')).length)
    else if c = '\n' then
      if s.brackets.isEmpty then some { s.push .newline cs with lineStart := true }
      else some { s.skip 1 with lineStart := true }
    else if c = '\\' then
      match cs with
      | '\n' :: _ :: _ => some (s.skip 2)
      | _ => none
    else if isNameStart c then s.name
    else if isDigit c then (numberAfter? s.rest).map (s.push .number)
    else if c = '.' ∧ (cs.head?.map isDigit).getD false then
      (fractionEnd? cs).map (s.push .number)
    else if c = '\'' ∨ c = '"' then (stringAfter? s.rest).map (s.push .string)
    else s.operator

def run : Nat → LexState → Option LexState
  | 0, _ => none
  | fuel + 1, s =>
    if s.rest.isEmpty then
      if s.brackets.isEmpty then (s.indentTo .zero).map (·.layout .last) else none
    else if s.lineStart then s.startLine.bind (run fuel)
    else s.step.bind (run fuel)

end LexState

/-- The tokens of a text whose lines end in line feeds, if it has any; a text with NUL has none. -/
def tokens? (t : List Char) : Option (Array Token) :=
  if t.contains '\x00' then none
  else
    (LexState.run (2 * t.length + 2) ⟨⟨0, 0⟩, t, [], [], true, []⟩).map fun s =>
      s.done.reverse.toArray

end OpenDocs.Program
