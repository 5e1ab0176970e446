import OpenDocs.Program.Number
import OpenDocs.Json.Reader

/-!
# String literals of a program

The escapes of a literal are checked. In a formatted string the replacement fields are found, and
their expressions are handed on as text to be parsed.
-/

namespace OpenDocs.Program

structure Literal where
  isBytes : Bool
  isRaw : Bool
  isFormatted : Bool
  body : List Char
  deriving DecidableEq

namespace Literal

/-- Takes a literal apart: its letters, its marks, its body. -/
def ofText (text : List Char) : Literal :=
  let letters := (text.takeWhile fun c => c != '\'' && c != '"').map Char.toLower
  let quoted := text.drop letters.length
  let size := match quoted with
    | a :: b :: c :: _ :: _ :: _ => if a = b ∧ b = c then 3 else 1
    | _ => 1
  { isBytes := letters.contains 'b'
    isRaw := letters.contains 'r'
    isFormatted := letters.contains 'f'
    body := (quoted.drop size).take (quoted.length - 2 * size) }

def isHex (cs : List Char) : Bool := cs.all isHexDigit

def hexNat (cs : List Char) : Nat :=
  cs.foldl (fun n c => n * 16 + (Json.hexDigit? c).getD 0) 0

/-- The name of a character, by its form: letters, digits, blanks and hyphens between braces. -/
def namedEnd? : List Char → Option (List Char)
  | '\x7b' :: cs =>
    let name := cs.takeWhile (· != '\x7d')
    let ok := name.all fun c => isDigit c || c.isAlpha || c == ' ' || c == '-'
    match cs.drop name.length with
    | _ :: rest => if name.isEmpty || !ok then none else some rest
    | [] => none
  | _ => none

/-- Whether every escape of a text is complete; the text may end in a lone backslash. -/
def escapesHold (isBytes : Bool) : Nat → List Char → Bool
  | 0, _ => true
  | fuel + 1, cs =>
    match cs.dropWhile (· != '\\') with
    | '\\' :: e :: rest =>
      let width := match e with
        | 'x' => 2
        | 'u' => if isBytes then 0 else 4
        | 'U' => if isBytes then 0 else 8
        | _ => 0
      let digits := rest.take width
      if e = 'N' ∧ isBytes = false then
        match namedEnd? rest with
        | some rest => escapesHold isBytes fuel rest
        | none => false
      else
        digits.length == width && isHex digits && (width != 8 || hexNat digits ≤ 0x10FFFF)
          && escapesHold isBytes fuel (rest.drop width)
    | _ => true

def hasEscapes (isBytes isRaw : Bool) (cs : List Char) : Bool :=
  isRaw || escapesHold isBytes (cs.length + 1) cs

end Literal

/-! ## Replacement fields -/

/-- A part of a formatted string up to its next field: the text behind it, or behind a doubled
brace, if the part is well formed. -/
inductive Piece where
  /-- A doubled brace ends the piece. -/
  | brace (text rest : List Char)
  /-- A field or the end of the string comes next. -/
  | plain (text rest : List Char)

/-- Reads plain text; `outermost` says whether doubled braces stand for one. -/
def readPiece (isRaw outermost : Bool) : List Char → List Char → Option Piece
  | done, [] => some (.plain done.reverse [])
  | done, '\\' :: 'N' :: '\x7b' :: cs =>
    if isRaw then readBrace outermost ('N' :: '\\' :: done) '\x7b' cs
    else
      let name := cs.takeWhile (· != '\x7d')
      readPiece isRaw outermost
        (((cs.drop name.length).take 1).reverse ++ name.reverse ++ '\x7b' :: 'N' :: '\\' :: done)
        (cs.drop (name.length + 1))
  | done, '\\' :: c :: cs =>
    if isRaw ∨ c = '\x7b' ∨ c = '\x7d' then readPiece isRaw outermost ('\\' :: done) (c :: cs)
    else readPiece isRaw outermost (c :: '\\' :: done) cs
  | done, c :: cs =>
    if c = '\x7b' ∨ c = '\x7d' then readBrace outermost done c cs
    else readPiece isRaw outermost (c :: done) cs
termination_by _ cs => cs.length
decreasing_by all_goals (simp only [List.length_cons, List.length_drop]; omega)
where
  readBrace (outermost : Bool) (done : List Char) (c : Char) (cs : List Char) :
      Option Piece :=
    if outermost then
      if cs.head? = some c then some (.brace (c :: done).reverse (cs.drop 1))
      else if c = '\x7d' then none
      else some (.plain done.reverse (c :: cs))
    else some (.plain done.reverse (c :: cs))

/-- Where the scan of a field's expression stands. -/
structure FieldScan where
  /-- The mark and size of the string that the scan is in. -/
  quote : Option (Char × Nat)
  /-- The closing brackets that are waited for. -/
  brackets : List Char

def closes? (c : Char) : Option Char :=
  match c with
  | '(' => some ')'
  | '[' => some ']'
  | '\x7b' => some '\x7d'
  | _ => none

/-- The expression of a field, reversed onto `done`, and what ends it. -/
def fieldExpression (s : FieldScan) : List Char → List Char → Option (List Char × List Char)
  | _, [] => none
  | done, c :: cs =>
    if c = '\\' then none
    else match s.quote with
    | some (mark, size) =>
      if c ≠ mark then fieldExpression s (c :: done) cs
      else if size = 1 then fieldExpression { s with quote := none } (c :: done) cs
      else match cs with
        | a :: b :: rest =>
          if a = c ∧ b = c then fieldExpression { s with quote := none } (b :: a :: c :: done) rest
          else fieldExpression s (c :: done) (a :: b :: rest)
        | rest => fieldExpression s (c :: done) rest
    | none =>
      if c = '\'' ∨ c = '"' then
        match cs with
        | a :: b :: rest =>
          if a = c ∧ b = c then
            fieldExpression { s with quote := some (c, 3) } (b :: a :: c :: done) rest
          else fieldExpression { s with quote := some (c, 1) } (c :: done) (a :: b :: rest)
        | rest => fieldExpression { s with quote := some (c, 1) } (c :: done) rest
      else match closes? c with
      | some e =>
        if s.brackets.length < 200 then
          fieldExpression { s with brackets := e :: s.brackets } (c :: done) cs
        else none
      | none =>
        if c = '#' then none
        else if s.brackets.isEmpty ∧ c ∈ ['!', ':', '\x7d', '=', '>', '<'] then
          match cs with
          | '=' :: rest =>
            if c = '!' ∨ c = '=' ∨ c = '<' ∨ c = '>' then
              fieldExpression s ('=' :: c :: done) rest
            else some (done.reverse, c :: '=' :: rest)
          | rest =>
            if c = '>' ∨ c = '<' then fieldExpression s (c :: done) rest
            else some (done.reverse, c :: rest)
        else if c = ')' ∨ c = ']' ∨ c = '\x7d' then
          match s.brackets with
          | e :: outer =>
            if e = c then fieldExpression { s with brackets := outer } (c :: done) cs else none
          | [] => none
        else fieldExpression s (c :: done) cs
termination_by _ cs => cs.length

/-- Behind the expression: an equals sign with blanks, and a conversion. -/
def conversionEnd? (cs : List Char) : Option (List Char) :=
  let cs := match cs with
    | '=' :: rest => rest.dropWhile fun c => c == ' ' || ('\t' ≤ c && c ≤ '\r')
    | cs => cs
  match cs with
  | '!' :: c :: rest => if c = 's' ∨ c = 'r' ∨ c = 'a' then some rest else none
  | '!' :: [] => none
  | cs => some cs

def isBlankExpression (cs : List Char) : Bool :=
  cs.all fun c => c == ' ' || c == '\t' || c == '\n' || c == '\x0c'

/-- Reads the fields of a formatted string, or of the layout of a field `depth` levels down, up to
its end. Gives the expressions and what is behind. -/
def fields? (isRaw : Bool) : Nat → Nat → List Char → Option (List (List Char) × List Char)
  | 0, _, _ => none
  | fuel + 1, depth, cs => do
    match ← readPiece isRaw (depth == 0) [] cs with
    | .brace text rest =>
      if !Literal.hasEscapes false isRaw text then none
      fields? isRaw fuel depth rest
    | .plain text rest =>
      if !Literal.hasEscapes false isRaw text then none
      match rest with
      | '\x7b' :: body =>
        if 2 ≤ depth then none
        let (expression, rest) ← fieldExpression ⟨none, []⟩ [] body
        if isBlankExpression expression then none
        let rest ← conversionEnd? rest
        let (inner, rest) ← match rest with
          | ':' :: layout => if layout.isEmpty then none else fields? isRaw fuel (depth + 1) layout
          | rest => some ([], rest)
        match rest with
        | '\x7d' :: rest =>
          let (more, rest) ← fields? isRaw fuel depth rest
          some (expression :: inner ++ more, rest)
        | _ => none
      | rest => some ([], rest)

/-- The expressions in a literal, if the literal is well formed. -/
def Literal.expressions? (l : Literal) : Option (List (List Char)) :=
  if l.isFormatted then do
    let (found, rest) ← fields? l.isRaw (l.body.length + 2) 0 l.body
    if rest.isEmpty then some found else none
  else if l.isBytes && !l.body.all (·.toNat < 128) then none
  else if Literal.hasEscapes l.isBytes l.isRaw l.body then some []
  else none

/-- The expressions in literals side by side, which are all of bytes or all of text. -/
def joinedExpressions? (literals : List Literal) : Option (List (List Char)) :=
  if literals.all (·.isBytes) || literals.all (!·.isBytes) then
    (literals.mapM Literal.expressions?).map List.flatten
  else none

end OpenDocs.Program
