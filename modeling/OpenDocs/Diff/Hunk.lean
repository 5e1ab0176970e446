import OpenDocs.Diff.Matching

/-!
# Hunks

The steps from an old sequence to a new one keep items or replace them. Hunks are the steps that
replace something, with some kept items around them; hunks that would meet are one.
-/

namespace OpenDocs.Diff

/-- The old items between two bounds become the new items between two bounds. -/
structure Step where
  kept : Bool
  oldStart : Nat
  oldStop : Nat
  newStart : Nat
  newStop : Nat
  deriving DecidableEq

/-- The steps from two places on, up to the ends of both sequences. -/
def stepsFrom (old new oldLength newLength : Nat) : List Block → List Step
  | [] =>
    if old < oldLength ∨ new < newLength then [⟨false, old, oldLength, new, newLength⟩] else []
  | b :: rest =>
    (if old < b.old ∨ new < b.new then [⟨false, old, b.old, new, b.new⟩] else [])
      ++ ⟨true, b.old, b.old + b.size, b.new, b.new + b.size⟩
      :: stepsFrom (b.old + b.size) (b.new + b.size) oldLength newLength rest

def steps {Item : Type} [DecidableEq Item] (old new : List Item) : List Step :=
  stepsFrom 0 0 old.length new.length (matchingBlocks old new)

namespace Step

/-- The last items of a kept step. -/
def lastItems (context : Nat) (s : Step) : Step :=
  { s with
    oldStart := max s.oldStart (s.oldStop - context)
    newStart := max s.newStart (s.newStop - context) }

/-- The first items of a kept step. -/
def firstItems (context : Nat) (s : Step) : Step :=
  { s with
    oldStop := min s.oldStop (s.oldStart + context)
    newStop := min s.newStop (s.newStart + context) }

def isLong (context : Nat) (s : Step) : Bool := s.kept && context + context < s.oldStop - s.oldStart

end Step

def trimFirst (context : Nat) : List Step → List Step
  | s :: rest => (if s.kept then s.lastItems context else s) :: rest
  | [] => []

def trimLast (context : Nat) : List Step → List Step
  | [] => []
  | [s] => [if s.kept then s.firstItems context else s]
  | s :: rest => s :: trimLast context rest

abbrev Hunk := List Step

/-- Ends a hunk within each long kept step; `open_` holds the steps of the current hunk. -/
def splitHunks (context : Nat) (open_ : List Step) : List Step → List Hunk
  | [] =>
    match open_ with
    | [] => []
    | [s] => if s.kept then [] else [[s]]
    | ss => [ss]
  | s :: rest =>
    if s.isLong context then
      (open_ ++ [s.firstItems context]) :: splitHunks context [s.lastItems context] rest
    else splitHunks context (open_ ++ [s]) rest

def hunks {Item : Type} [DecidableEq Item] (context : Nat) (old new : List Item) : List Hunk :=
  splitHunks context [] (trimLast context (trimFirst context (steps old new)))

namespace Hunk

def oldStart (h : Hunk) : Nat := (h.head?.map Step.oldStart).getD 0

def oldStop (h : Hunk) : Nat := (h.getLast?.map Step.oldStop).getD 0

def newStart (h : Hunk) : Nat := (h.head?.map Step.newStart).getD 0

def newStop (h : Hunk) : Nat := (h.getLast?.map Step.newStop).getD 0

end Hunk

end OpenDocs.Diff
