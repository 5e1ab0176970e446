import OpenDocs.Diff.Unified
import OpenDocs.Disk.Access
import OpenDocs.Disk.FileName
import OpenDocs.Failure
import OpenDocs.Listener

/-!
# Proposals

A proposed text is written to a file of its own, under the label of the document that it is for, and
shown to reviewers as a diff.
-/

namespace OpenDocs

structure Preview where
  label : String
  current : List Char
  proposed : List Char
  diff : String
  path : Option Disk.Path
  summary : String

structure Proposals where
  directory : Disk.Path
  /-- How many unchanged lines are shown around a change. -/
  context : Int
  listeners : List (Listener Preview)
  last : Option Preview
  /-- What the listeners were told. -/
  heard : List (String × Preview)

namespace Proposals

/-- Without a directory, one below that for temporary files. -/
def inDirectory (d : Disk) (directory : Option String) (context : Int) :
    Except Disk.Fault Proposals := do
  let directory ← match directory with
    | none | some "" => pure (d.temporary.join (.ofString "tabbridge"))
    | some s => d.expandHome (.ofString s)
  pure ⟨directory, context, [], none, []⟩

def target (ps : Proposals) (label : String) : Disk.Path :=
  ps.directory.join ⟨0, [Disk.safeName label]⟩

def preview (ps : Proposals) (current proposed : List Char) (label : String) : Preview where
  label := label
  current := current
  proposed := proposed
  diff := Diff.unified current proposed label ps.context
  path := some (ps.target label)
  summary := Diff.summary current proposed

/-- Writes a proposal and tells the listeners of it. One that refuses makes it a failure, but the
preview is kept. -/
def present (d : Disk) (ps : Proposals) (current proposed : List Char) (label : String) :
    Except Failure Preview × Proposals × Disk :=
  match (Disk.writeText (ps.target label) proposed "utf-8").run.run d with
  | (.error f, d) => (.error (.fault f), ps, d)
  | (.ok _, d) =>
    let preview := ps.preview current proposed label
    let (told, refused) := tell preview ps.listeners
    let ps := { ps with last := some preview, heard := ps.heard ++ told.map (·, preview) }
    match refused with
    | some name => (.error (.refused s!"listener {name}"), ps, d)
    | none => (.ok preview, ps, d)

/-- Tries to write a proposal that is torn, which fails once its file would be written. -/
def presentTorn (d : Disk) (ps : Proposals) (label : String) : Failure × Disk :=
  match (Disk.writeCoded (ps.target label) (.error .surrogate)).run.run d with
  | (.error f, d) => (.fault f, d)
  | (.ok _, d) => (.fault (.encoding .surrogate), d)

end Proposals

end OpenDocs
