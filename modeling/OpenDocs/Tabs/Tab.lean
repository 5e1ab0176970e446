import OpenDocs.Disk.FileName

/-!
# Tabs

A tab is an open document: its text, perhaps the file that it belongs to, and the title by which
clients know it.
-/

namespace OpenDocs.Tabs

structure Tab where
  id : String
  title : String
  path : Option Disk.Path
  language : String
  text : List Char
  version : Nat
  /-- Which of the tabs without a file it is. -/
  untitled : Option Nat
  deriving DecidableEq

/-- A document as it was at the moment of a request. -/
structure Snapshot where
  label : String
  text : List Char
  path : Option Disk.Path
  language : String
  version : Nat
  deriving DecidableEq

namespace Tab

def fileTitle (p : Disk.Path) : String := if p.name.isEmpty then p.text else p.name

/-- The file's name or, without a file, a word with the tab's number. -/
def titleFor (path : Option Disk.Path) (untitled : Option Nat) (word : String) : String :=
  match path with
  | some p => fileTitle p
  | none =>
    match untitled with
    | none | some 0 => word
    | some n => s!"{word}-{n}"

def retitle (t : Tab) (word : String) : Tab := { t with title := titleFor t.path t.untitled word }

def setText (t : Tab) (text : List Char) : Tab := { t with text, version := t.version + 1 }

def snapshot (t : Tab) (label : String) (text : List Char) : Snapshot :=
  ⟨label, text, t.path, t.language, t.version⟩

end Tab

end OpenDocs.Tabs
