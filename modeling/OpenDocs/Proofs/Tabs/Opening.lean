import OpenDocs.Proofs.Disk.Normal
import OpenDocs.Proofs.Number.Spare
import OpenDocs.Tabs.Workspace

/-!
# How tabs are opened

What a workspace is after a tab was opened, and when a call gives back a tab that was open before.
-/

namespace OpenDocs.Tabs.Workspace

variable {d : Disk} {w w' : Workspace} {t : Tab} {id : String}

theorem byId?_eq_none_iff : w.byId? id = none ↔ id ∉ w.table.map (·.id) := by
  simp [byId?, List.find?_eq_none]

theorem mem_table_of_byId? (found : w.byId? id = some t) : t ∈ w.table ∧ t.id = id :=
  ⟨List.mem_of_find?_eq_some found, by simpa using List.find?_some found⟩

theorem mem_tabs_iff : t ∈ w.tabs ↔ ∃ id ∈ w.order, w.byId? id = some t := List.mem_filterMap

theorem mem_table_of_mem_tabs (listed : t ∈ w.tabs) : t ∈ w.table := by
  obtain ⟨id, _, found⟩ := mem_tabs_iff.mp listed
  exact (mem_table_of_byId? found).1

theorem byId?_freshId (w : Workspace) : w.byId? w.freshId = none := by
  have fewer : (w.table.map (·.id)).length < w.table.length + 1 := by
    rw [List.length_map]
    omega
  obtain ⟨n, listed, free⟩ := exists_spare numberedId (fun _ _ => padded_inj) fewer
  rw [freshId]
  cases found : ((List.range (w.table.length + 1)).map numberedId).find? fun id =>
      (w.byId? id).isNone with
  | none =>
    have taken := List.find?_eq_none.mp found _ (List.mem_map_of_mem listed)
    rw [byId?_eq_none_iff.mpr free] at taken
    exact absurd rfl taken
  | some id => simpa using List.find?_some found

/-- A new tab was opened: it is in the table under its id, and last in the order. -/
structure Opened (d : Disk) (w : Workspace) (new : NewTab) (t : Tab) (w' : Workspace) : Prop where
  id : t.id = (given new.id).getD w.freshId
  path : new.path.mapM d.normalize = .ok t.path
  text : t.text = new.text
  table : w'.table = store t w.table
  order : w'.order = w.order ++ [t.id]
  root : w'.root = w.root
  untitled : t.untitled = if t.path.isNone then some w.nextUntitled else none
  nextUntitled : w'.nextUntitled = if t.path.isNone then w.nextUntitled + 1 else w.nextUntitled

theorem opened_of_create {new : NewTab} (created : w.create d new = .ok (t, w')) :
    Opened d w new t w' := by
  rw [create] at created
  obtain ⟨path, normal, made⟩ := bind_eq_ok_iff.mp created
  obtain ⟨rfl, rfl⟩ := Prod.mk.inj (Except.ok.inj made)
  exact ⟨rfl, normal, rfl, rfl, rfl, rfl, rfl, rfl⟩

theorem Opened.free_or_asked {new : NewTab} (opened : Opened d w new t w') :
    w.byId? t.id = none ∨ given new.id = some t.id := by
  rw [opened.id]
  cases given new.id with
  | none => exact .inl (byId?_freshId w)
  | some id => exact .inr rfl

theorem Opened.exists_path {new : NewTab} {p : Disk.Path} (opened : Opened d w new t w')
    (asked : new.path = some p) : ∃ path, d.normalize p = .ok path ∧ t.path = some path := by
  have made := opened.path
  rw [asked] at made
  cases normal : d.normalize p with
  | error f => simp [Option.mapM, normal, Functor.map, Except.map] at made
  | ok path =>
    simp only [Option.mapM, normal, Functor.map, Except.map, Except.ok.injEq] at made
    exact ⟨path, rfl, made.symm⟩

/-- A tab for a file that is given no title has that of the file. -/
theorem title_of_create {new : NewTab} (created : w.create d new = .ok (t, w'))
    (untitled : given new.title = none) {path : Disk.Path} (has : t.path = some path) :
    t.title = Tab.fileTitle path := by
  obtain ⟨path', _, made⟩ := bind_eq_ok_iff.mp created
  obtain ⟨rfl, rfl⟩ := Prod.mk.inj (Except.ok.inj made)
  obtain rfl : path' = some path := has
  exact congrArg (·.getD (Tab.titleFor (some path) none "Untitled")) untitled

/-- A file is opened in the tab that has it, or read from the path as given and put into a new
one. -/
theorem openFile_eq_ok_iff {p : Disk.Path} :
    w.openFile d p = .ok (t, w') ↔
      w.findByPath d p = .ok (some t) ∧ w' = w ∨
        w.findByPath d p = .ok none ∧ ∃ text, d.readText p none "strict" = .ok text ∧
          w.create d { text, path := some p } = .ok (t, w') := by
  rw [openFile, bind_eq_ok_iff]
  constructor
  · rintro ⟨found, sought, opened⟩
    cases found with
    | some u =>
      obtain ⟨rfl, rfl⟩ := Prod.mk.inj (Except.ok.inj opened)
      exact .inl ⟨sought, rfl⟩
    | none => exact .inr ⟨sought, bind_eq_ok_iff.mp opened⟩
  · rintro (⟨sought, rfl⟩ | ⟨sought, opened⟩)
    · exact ⟨some t, sought, rfl⟩
    · exact ⟨none, sought, bind_eq_ok_iff.mpr opened⟩

/-- The first of some tabs with a property. -/
def First (has : Tab → Prop) (ts : List Tab) (t : Tab) : Prop :=
  ∃ front back, ts = front ++ t :: back ∧ has t ∧ ∀ u ∈ front, ¬ has u

theorem find?_eq_some_iff_first {holds : Tab → Bool} {has : Tab → Prop} {ts : List Tab}
    (agree : ∀ u, holds u = true ↔ has u) : ts.find? holds = some t ↔ First has ts t := by
  simp only [List.find?_eq_some_iff_append, First, agree, Bool.not_eq_true', ← Bool.not_eq_true,
    ← exists_and_left]
  exact exists_congr fun front => exists_congr fun back => and_left_comm

theorem findByPath_eq_some_iff {p : Disk.Path} : w.findByPath d p = .ok (some t) ↔
    ∃ path, d.normalize p = .ok path ∧ First (·.path = some path) w.tabs t := by
  rw [findByPath]
  split
  · next path normal =>
    have agree (u : Tab) : (u.path == some path) = true ↔ u.path = some path := beq_iff_eq
    rw [Except.ok.injEq, find?_eq_some_iff_first agree]
    simp [normal]
  · next normal => simp [normal]
  · next f _ normal => simp [normal]

theorem First.mem {has : Tab → Prop} {ts : List Tab} (first : First has ts t) : t ∈ ts := by
  obtain ⟨front, back, rfl, _⟩ := first
  exact List.mem_append_right front List.mem_cons_self

theorem First.has {has : Tab → Prop} {ts : List Tab} (first : First has ts t) : has t := by
  obtain ⟨front, back, _, held, _⟩ := first
  exact held

theorem mem_tabs_of_findByPath {p : Disk.Path} (found : w.findByPath d p = .ok (some t)) :
    t ∈ w.tabs ∧ ∃ path, d.normalize p = .ok path ∧ t.path = some path := by
  obtain ⟨path, normal, first⟩ := findByPath_eq_some_iff.mp found
  exact ⟨first.mem, path, normal, first.has⟩

end OpenDocs.Tabs.Workspace
