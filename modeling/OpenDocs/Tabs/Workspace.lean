import OpenDocs.Disk.Torn
import OpenDocs.Failure
import OpenDocs.Tabs.Tab

/-!
# Workspaces

A workspace holds the open tabs in order of opening. A tab is found by its title, by its id or by
the path of its file, in this order; of several tabs with one title the first is found.
-/

namespace OpenDocs.Tabs

structure Workspace where
  root : Disk.Path
  /-- One tab for each id. -/
  table : List Tab
  /-- The ids of the tabs that were opened. -/
  order : List String
  nextUntitled : Nat
  deriving DecidableEq

/-- What is asked of a new tab. -/
structure NewTab where
  text : List Char := []
  path : Option Disk.Path := none
  title : Option String := none
  language : Option String := none
  id : Option String := none

namespace Workspace

/-- An empty workspace, at the working directory if no other is given. -/
def empty (d : Disk) (root : Option Disk.Path) : Except Disk.Fault Workspace := do
  let root ← d.normalize (root.getD ⟨0, []⟩)
  pure ⟨root, [], [], 1⟩

def byId? (w : Workspace) (id : String) : Option Tab := w.table.find? (·.id == id)

def tabs (w : Workspace) : List Tab := w.order.filterMap w.byId?

/-- Puts a tab in the place of the one with its id, or at the end. -/
def store (t : Tab) : List Tab → List Tab
  | [] => [t]
  | u :: rest => if u.id = t.id then t :: rest else u :: store t rest

theorem find?_store (t : Tab) (table : List Tab) (id : String) :
    (store t table).find? (·.id == id) =
      if t.id = id then some t else table.find? (·.id == id) := by
  induction table with
  | nil => simp only [store, List.find?_cons, List.find?_nil]; grind
  | cons u rest ih => simp only [store]; split <;> simp only [List.find?_cons] <;> grind

def numberedId (n : Nat) : String :=
  let digits := toString n
  String.ofList (List.replicate (32 - digits.length) '0') ++ digits

/-- An id that no tab has. -/
def freshId (w : Workspace) : String :=
  (((List.range (w.table.length + 1)).map numberedId).find? fun id => (w.byId? id).isNone).getD ""

/-- The text if there is one and it is not empty. -/
def given (s : Option String) : Option String := s.filter (!·.isEmpty)

/-- The tab that is asked for, with its path in normal form. -/
def newTab (w : Workspace) (path : Option Disk.Path) (untitled : Option Nat) (new : NewTab) :
    Tab where
  id := (given new.id).getD w.freshId
  title := (given new.title).getD (Tab.titleFor path untitled "Untitled")
  path
  language := (given new.language).getD ((path.map Disk.languageOf).getD "plain_text")
  text := new.text
  version := 1
  untitled

/-- Opens a tab. Only one without a file uses up an untitled number. -/
def create (d : Disk) (w : Workspace) (new : NewTab) : Except Disk.Fault (Tab × Workspace) := do
  let path ← new.path.mapM d.normalize
  let tab := w.newTab path (if path.isNone then some w.nextUntitled else none) new
  pure (tab, { w with
    table := store tab w.table
    order := w.order ++ [tab.id]
    nextUntitled := if path.isNone then w.nextUntitled + 1 else w.nextUntitled })

def findByTitle? (w : Workspace) (title : String) : Option Tab := w.tabs.find? (·.title == title)

/-- The first tab with the file that a path leads to. A path from an unknown home leads to none. -/
def findByPath (d : Disk) (w : Workspace) (p : Disk.Path) : Except Disk.Fault (Option Tab) :=
  match d.normalize p with
  | .ok path => .ok (w.tabs.find? (·.path == some path))
  | .error .noHome => .ok none
  | .error f => .error f

/-- The tab of a file, opened if no tab has it yet. -/
def openFile (d : Disk) (w : Workspace) (p : Disk.Path) : Except Disk.Fault (Tab × Workspace) := do
  match ← w.findByPath d p with
  | some tab => pure (tab, w)
  | none =>
    let text ← d.readText p none "strict"
    w.create d { text, path := some p }

/-- The tab that an identifier names. -/
def get (d : Disk) (w : Workspace) (identifier : String) : Except Failure Tab :=
  match (w.findByTitle? identifier).or (w.byId? identifier) with
  | some tab => .ok tab
  | none =>
    match w.findByPath d (.ofString identifier) with
    | .ok (some tab) => .ok tab
    | .ok none => .error (.problem (.noSuchTab identifier none))
    | .error f => .error (.fault f)

/-- The tab that an identifier names which may be torn, as no title and no id is. -/
def seek (d : Disk) (w : Workspace) (identifier : List Text.Point) : Except Failure Tab :=
  match (Text.whole? identifier).bind fun name => (w.findByTitle? name).or (w.byId? name) with
  | some tab => .ok tab
  | none =>
    match d.normalizePoints identifier with
    | .ok path? =>
      match path?.bind fun path => w.tabs.find? (·.path == some path) with
      | some tab => .ok tab
      | none => .error (.noSuchTab identifier)
    | .error .noHome => .error (.noSuchTab identifier)
    | .error f => .error (.fault f)

/-- The path of a tab's file from the root, or as it is if it lies elsewhere; without a file, the
title. -/
def shownPath (w : Workspace) (t : Tab) : String :=
  match t.path with
  | none => t.title
  | some p => ((p.relativeTo? w.root).getD p).text

/-- Changes the tab with an id. -/
def update (w : Workspace) (id : String) (f : Tab → Tab) : Workspace :=
  { w with table := w.table.map fun t => if t.id = id then { f t with id := t.id } else t }

end Workspace

end OpenDocs.Tabs
