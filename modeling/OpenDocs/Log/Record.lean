import OpenDocs.Log.Level

/-!
# Log records

A record comes from a logger. Loggers have names of several parts, and one lies below another when
its name goes on from the other's; all lie below the root, whose name has no parts.

A written name is taken apart at its dots, from the last one on. What stands before such a dot is
the name of the next logger outward, which is looked up only at every other one of several dots in a
row, unless a logger is known by the name that ends in a dot.
-/

namespace OpenDocs.Log

/-- The parts of a logger's name, the innermost first. -/
abbrev Name := List String

namespace Name

/-- The parts of a name whose letters are given from the last one on. A dot ends a part unless it is
passed over, as the one directly before such a dot is and the one in front of all letters. -/
def partsBack (known : List String) : Bool → List Char → List (List Char)
  | _, [] => [[]]
  | passed, c :: cs =>
    if c = '.' ∧ passed = false ∧ cs ≠ [] then
      [] :: partsBack known (String.ofList cs.reverse ∉ known) cs
    else (partsBack known false cs).modifyHead (c :: ·)

/-- The root has a written name of its own. Known are the names of the loggers asked for before. -/
def ofString (known : List String) (s : String) : Name :=
  if s = "" || s = "root" then []
  else (partsBack known false s.toList.reverse).map fun part => String.ofList part.reverse

def text (n : Name) : String :=
  if n.isEmpty then "root" else ".".intercalate n.reverse

/-- Whether a name is another or goes on from it. -/
def isWithin (n outer : Name) : Bool := outer.isSuffixOf n

end Name

structure Record where
  /-- The time as it is written. -/
  time : String
  level : Level
  logger : Name
  message : String

/-- How a record is written as a line. -/
inductive Layout where
  | application
  | access
  /-- The message alone. -/
  | bare
  deriving DecidableEq

/-- A level's name takes up eight characters at least. -/
def levelColumn (l : Level) : String :=
  let name := l.name
  name ++ String.ofList (List.replicate (8 - name.length) ' ')

def Record.line (r : Record) : Layout → String
  | .application => s!"{r.time} | {levelColumn r.level} | {r.logger.text} | {r.message}\n"
  | .access => s!"{r.time} {r.message}\n"
  | .bare => s!"{r.message}\n"

end OpenDocs.Log
