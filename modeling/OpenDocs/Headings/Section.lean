import OpenDocs.Headings.Line
import OpenDocs.Outline.Symbol
import OpenDocs.Text.Lines

/-!
# Sections of a Markdown document

The headings are found line by line, outside of fences. A heading's section runs up to the next
heading of its own level or a higher one, and a section holds the sections of lower level in it.
-/

namespace OpenDocs.Headings

structure Heading where
  title : List Char
  level : Nat
  line : Nat
  deriving DecidableEq

/-- The headings from line `index` on, `inside` a fence or not. -/
def scan : Option Fence → Nat → List (List Char) → List Heading
  | _, _, [] => []
  | some f, index, line :: rest =>
    scan (if closes f line then none else some f) (index + 1) rest
  | none, index, line :: rest =>
    match opens? line with
    | some f => scan (some f) (index + 1) rest
    | none =>
      match numbered? line with
      | some (level, title) => ⟨title, level, index⟩ :: scan none (index + 1) rest
      | none =>
        match rest with
        | [] => []
        | below :: rest' =>
          let text := Text.strip line
          match if text.isEmpty then none else underline? below with
          | some level => ⟨text, level, index⟩ :: scan none (index + 2) rest'
          | none => scan none (index + 1) (below :: rest')

def headings (lines : List (List Char)) : List Heading := scan none 0 lines

/-- The last line of a heading's section, given the headings behind it. -/
def endLine (lastLine : Nat) (h : Heading) (following : List Heading) : Nat :=
  match following.find? (·.level ≤ h.level) with
  | some k => max h.line (k.line - 1)
  | none => lastLine

/-- A heading with the last line of its section. -/
structure Extent where
  heading : Heading
  endLine : Nat
  deriving DecidableEq

def extents (lastLine : Nat) : List Heading → List Extent
  | [] => []
  | h :: rest => ⟨h, endLine lastLine h rest⟩ :: extents lastLine rest

structure Section where
  heading : Heading
  endLine : Nat
  inner : List Section

/-- A section that may still take in others, with the sections beside it that come before it; the
last of these is the first. -/
structure OpenSection where
  extent : Extent
  before : List Section

/-- Closes the innermost open sections that cannot hold a heading of this level. The open sections
are given with the innermost first, and `here` is what the innermost one holds so far, reversed. -/
def closeTo (level : Nat) (here : List Section) : List OpenSection → List Section × List OpenSection
  | [] => (here, [])
  | o :: outer =>
    if level ≤ o.extent.heading.level then
      closeTo level (⟨o.extent.heading, o.extent.endLine, here.reverse⟩ :: o.before) outer
    else (here, o :: outer)

/-- Each heading goes into the innermost section that is open for it, and opens its own. -/
def nestFrom (here : List Section) (stack : List OpenSection) : List Extent → List Section
  | [] => (closeTo 0 here stack).1.reverse
  | x :: rest =>
    let (before, outer) := closeTo x.heading.level here stack
    nestFrom [] (⟨x, before⟩ :: outer) rest

def nest (extents : List Extent) : List Section := nestFrom [] [] extents

def sections (lines : List (List Char)) : List Section :=
  nest (extents (lines.length - 1) (headings lines))

mutual

/-- A section runs from the start of its heading's line to the end of its last line. -/
def Section.symbol (lines : List (List Char)) : Section → Outline.Symbol
  | ⟨h, endLine, inner⟩ =>
    { name := String.ofList h.title
      kind := .string
      start := ⟨h.line, 0⟩
      stop := ⟨endLine, (lines[endLine]?.getD []).length⟩
      children := symbolsOf lines inner }

def symbolsOf (lines : List (List Char)) : List Section → List Outline.Symbol
  | [] => []
  | s :: rest => s.symbol lines :: symbolsOf lines rest

end

def symbols (t : List Char) : List Outline.Symbol :=
  let lines := Text.lineTexts t
  symbolsOf lines (sections lines)

end OpenDocs.Headings
