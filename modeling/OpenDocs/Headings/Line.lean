import OpenDocs.Text.Classes

/-!
# Lines of a Markdown document

A line is read without its break. It may open or close a fence, be a heading that begins with
number signs, or underline the line above.
-/

namespace OpenDocs.Headings

/-- The line behind at most three spaces. -/
def unindent (line : List Char) : List Char :=
  let spaces := (line.takeWhile (· == ' ')).length
  line.drop (min spaces 3)

/-- A run of the same mark, and what follows it. -/
def runOf (mark : Char) (cs : List Char) : Nat × List Char :=
  ((cs.takeWhile (· == mark)).length, cs.dropWhile (· == mark))

structure Fence where
  mark : Char
  length : Nat
  deriving DecidableEq

/-- Three or more backquotes or tildes, and what follows them. -/
def fence? (line : List Char) : Option (Fence × List Char) :=
  match unindent line with
  | mark :: rest =>
    if mark = '`' ∨ mark = '~' then
      let (more, info) := runOf mark rest
      if 2 ≤ more then some (⟨mark, more + 1⟩, info) else none
    else none
  | [] => none

/-- The fence a line opens; after backquotes there is no other backquote. -/
def opens? (line : List Char) : Option Fence :=
  match fence? line with
  | some (f, info) => if f.mark = '`' ∧ '`' ∈ info then none else some f
  | none => none

/-- A fence is closed by one of the same mark and at least its length, with nothing after it. -/
def closes (f : Fence) (line : List Char) : Bool :=
  match fence? line with
  | some (g, info) => g.mark == f.mark && decide (f.length ≤ g.length) && (Text.strip info).isEmpty
  | none => false

/-- Blanks, or number signs after a blank and then blanks. -/
def closesTitle (cs : List Char) : Bool :=
  cs.all Text.isBlank ||
    ((cs.head?.map Text.isBlank).getD false &&
      let marks := Text.trimEnd (cs.dropWhile Text.isBlank)
      !marks.isEmpty && marks.all (· == '#'))

/-- The shortest beginning, of at least one code point, behind which the title is closed. -/
def titleOf : List Char → List Char
  | [] => []
  | c :: rest => if closesTitle rest then [c] else c :: titleOf rest

/-- The level and title of a line that begins with number signs and a blank. -/
def numbered? (line : List Char) : Option (Nat × List Char) :=
  let (level, rest) := runOf '#' (unindent line)
  if 1 ≤ level ∧ level ≤ 6 then
    let body := rest.dropWhile Text.isBlank
    let blanks := rest.length - body.length
    if blanks = 0 then none
    else if body.isEmpty then
      -- A last blank can stand for the title, and leaves it empty.
      if 2 ≤ blanks then some (level, []) else none
    else some (level, Text.strip (titleOf body))
  else none

/-- The level that a line gives to the text above it. -/
def underline? (line : List Char) : Option Nat :=
  match unindent line with
  | mark :: rest =>
    let (more, tail) := runOf mark rest
    if tail.all Text.isBlank then
      if mark = '=' then some 1
      else if mark = '-' ∧ 1 ≤ more then some 2
      else none
    else none
  | [] => none

end OpenDocs.Headings
