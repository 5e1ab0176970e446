import OpenDocs.Text.Cut

/-!
# Paths

A path is a list of names, taken from the working directory or, with a slash in front, from the
outermost one. Names that say nothing are dropped when a path is read; a step up to the containing
directory is kept.
-/

namespace OpenDocs.Disk

structure Path where
  /-- None, one or two slashes in front. -/
  slashes : Nat
  names : List String
  deriving DecidableEq

namespace Path

def isAbsolute (p : Path) : Bool := p.slashes != 0

/-- Two slashes in front are kept apart; three and more are one. -/
def leadingSlashes (cs : List Char) : Nat :=
  match (cs.takeWhile (· == '/')).length with
  | 0 => 0
  | 2 => 2
  | _ => 1

def isName (name : String) : Bool := name != "" && name != "."

def ofString (s : String) : Path :=
  ⟨leadingSlashes s.toList, (Text.pieces '/' s).filter isName⟩

/-- The path without names is written as a dot, if it has no slash either. -/
def text (p : Path) : String :=
  if p.slashes = 0 && p.names.isEmpty then "."
  else String.ofList (List.replicate p.slashes '/') ++ "/".intercalate p.names

/-- The path of an absolute location. -/
def ofNames (names : List String) : Path := ⟨1, names⟩

/-- The last name, empty if there is none. -/
def name (p : Path) : String := p.names.getLast?.getD ""

def parent (p : Path) : Path := { p with names := p.names.dropLast }

/-- The second path seen from the first, unless it is absolute. -/
def join (p q : Path) : Path :=
  if q.isAbsolute then q else { p with names := p.names ++ q.names }

/-- What the last dot of a name begins, unless it is the first or the last character. -/
def suffixOf (name : List Char) : List Char :=
  let tail := (name.reverse.takeWhile (· != '.')).reverse
  if tail.length + 1 < name.length && !tail.isEmpty then '.' :: tail else []

def suffix (p : Path) : String := String.ofList (suffixOf p.name.toList)

/-- The path with another suffix; none if it has no name to put it on. -/
def withSuffix? (p : Path) (suffix : String) : Option Path :=
  match p.names.getLast? with
  | none => none
  | some name =>
    let stem := name.toList.take (name.toList.length - (suffixOf name.toList).length)
    some { p with names := p.names.dropLast ++ [String.ofList stem ++ suffix] }

/-- The path as seen from a path that it lies under. -/
def relativeTo? (p base : Path) : Option Path :=
  if p.slashes = base.slashes && base.names.isPrefixOf p.names then
    some ⟨0, p.names.drop base.names.length⟩
  else none

def hasNul (p : Path) : Bool := p.names.any (·.toList.contains '\x00')

end Path

end OpenDocs.Disk
