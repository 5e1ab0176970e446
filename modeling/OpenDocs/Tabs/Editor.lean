import OpenDocs.Edit
import OpenDocs.Outline.Language
import OpenDocs.Proposals
import OpenDocs.Tabs.Workspace

/-!
# Editors

An editor answers for the documents of a workspace. Its text source says whether a document's text
is that of the tab or that of the file, read anew for each request.
-/

namespace OpenDocs.Tabs

inductive TextSource where
  | buffer
  | disk
  deriving DecidableEq

def TextSource.name : TextSource → String
  | buffer => "buffer"
  | disk => "disk"

def TextSource.named? (name : String) : Option TextSource :=
  [buffer, disk].find? (·.name == name)

structure Editor where
  workspace : Workspace
  source : TextSource
  proposals : Proposals

namespace Editor

/-- The tabs' titles and paths, in order of opening. -/
def documents (e : Editor) : List (String × String) :=
  e.workspace.tabs.map fun t => (t.title, e.workspace.shownPath t)

/-- The text of a tab. A file that is gone is told to the client. -/
def textOf (d : Disk) (e : Editor) (t : Tab) : Except Failure (List Char) :=
  match e.source, t.path with
  | .buffer, _ | .disk, none => .ok t.text
  | .disk, some p =>
    match d.readText p none "strict" with
    | .ok text => .ok text
    | .error (.access .missing _) =>
      .error (.problem (.noSuchTab t.title (some s!"File for tab {t.title} no longer exists")))
    | .error f => .error (.fault f)

def resolve (d : Disk) (e : Editor) (identifier : String) : Except Failure Snapshot := do
  let tab ← e.workspace.get d identifier
  pure (tab.snapshot tab.title (← e.textOf d tab))

/-- The document that an identifier names which may be torn. -/
def document (d : Disk) (e : Editor) (identifier : List Text.Point) :
    Except Failure Snapshot := do
  let tab ← e.workspace.seek d identifier
  pure (tab.snapshot tab.title (← e.textOf d tab))

/-- The symbols of a document, none if its language has no outline. -/
def symbols (d : Disk) (e : Editor) (identifier : String) :
    Except Failure (List Outline.Symbol) := do
  let snapshot ← e.resolve d identifier
  match Outline.defaultRegister.find? snapshot.language with
  | some language => pure (language.symbols snapshot.text)
  | none => pure []

def present (d : Disk) (e : Editor) (current proposed : List Char) (label : String) :
    Except Failure Preview × Editor × Disk :=
  let (result, proposals, d) := e.proposals.present d current proposed label
  (result, { e with proposals }, d)

end Editor

end OpenDocs.Tabs
