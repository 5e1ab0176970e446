import OpenDocs.CommandLine.Run
import OpenDocs.Proofs.Tabs.Reopening

/-!
# Files opened one after the other

Files are gone to in order, up to the first that cannot be read and is not open already. The tabs are
those of the files before it, one for each path in normal form, in order of the first file that has
it.
-/

namespace OpenDocs.CommandLine

open Tabs

/-- The normal forms of the paths of some files. -/
def forms (d : Disk) (files : List String) : List Disk.Path :=
  files.filterMap fun file => (d.normalize (.ofString file)).toOption

/-- A file that is not open after those before it, and cannot be read. -/
structure Fails (d : Disk) (before : List String) (file : String) (f : Disk.Fault) : Prop where
  fresh {path : Disk.Path} : d.normalize (.ofString file) = .ok path → path ∉ forms d before
  unread : d.readText (.ofString file) none "strict" = .error f

/-- None of some files fails after those before it. -/
def NoneFails (d : Disk) (before files : List String) : Prop :=
  ∀ front file back, files = front ++ file :: back → ∀ f, ¬ Fails d (before ++ front) file f

/-- A workspace has the tabs of some files. -/
structure HasFiles (d : Disk) (root : Disk.Path) (w : Workspace) (files : List String) :
    Prop where
  root : w.root = root
  registered : w.Registered
  tabs : w.tabs.map (fun t => (t.title, t.path)) =
    (forms d files).eraseDups.map fun path => (Tab.fileTitle path, some path)

section

variable {d : Disk} {root path : Disk.Path} {w w' : Workspace} {before files : List String}
  {file : String} {t : Tab} {f : Disk.Fault}

theorem forms_concat (normal : d.normalize (.ofString file) = .ok path) :
    forms d (files ++ [file]) = forms d files ++ [path] := by
  rw [forms, List.filterMap_append, List.filterMap_cons, normal]
  rfl

theorem NoneFails.nil (d : Disk) (before : List String) : NoneFails d before [] := by
  intro front file back same
  cases front <;> cases same

theorem NoneFails.cons (first : ∀ f, ¬ Fails d before file f)
    (later : NoneFails d (before ++ [file]) files) : NoneFails d before (file :: files) := by
  intro front file' back same
  cases front with
  | nil =>
    obtain ⟨rfl, _⟩ := List.cons.inj same
    rwa [List.append_nil]
  | cons file front =>
    obtain ⟨rfl, behind⟩ := List.cons.inj same
    have none_ := later front file' back behind
    rwa [List.append_assoc, List.singleton_append] at none_

/-! ### One file -/

/-- The files' paths are those of the tabs. -/
theorem HasFiles.mem_forms_iff (has : HasFiles d root w files) :
    path ∈ forms d files ↔ ∃ t ∈ w.tabs, t.path = some path := by
  have paths := congrArg (List.map Prod.snd) has.tabs
  rw [List.map_map, List.map_map] at paths
  have same : some path ∈ w.tabs.map (·.path) ↔ some path ∈ (forms d files).eraseDups.map some :=
    Iff.of_eq (congrArg (some path ∈ ·) paths)
  rw [List.mem_map, List.mem_map_of_injective (Option.some_injective _), List.mem_eraseDups] at same
  exact same.symm

/-- A file that is opened has a tab from then on, and did not fail. -/
theorem HasFiles.opened (has : HasFiles d root w before)
    (done : w.openFile d (.ofString file) = .ok (t, w')) :
    HasFiles d root w' (before ++ [file]) ∧ ∀ f, ¬ Fails d before file f := by
  rcases Workspace.openFile_eq_ok_iff.mp done with ⟨found, rfl⟩ | ⟨absent, text, read, created⟩
  -- Of a file that is open already nothing is read, and the tabs stay as they are.
  · obtain ⟨listed, path, normal, own⟩ := Workspace.mem_tabs_of_findByPath found
    have old : path ∈ forms d before := has.mem_forms_iff.mpr ⟨t, listed, own⟩
    refine ⟨⟨has.root, has.registered, ?_⟩, fun f fails => fails.fresh normal old⟩
    rw [forms_concat normal, eraseDups_concat_of_mem old]
    exact has.tabs
  · have opened := Workspace.opened_of_create created
    obtain ⟨path, normal, own⟩ := opened.exists_path rfl
    have new : path ∉ forms d before := by
      rw [has.mem_forms_iff]
      rintro ⟨u, listed, same⟩
      exact (Workspace.findByPath_none absent).2 path normal u listed same
    refine ⟨⟨opened.root.trans has.root, has.registered.opened opened, ?_⟩, fun f fails => ?_⟩
    · have free : w.byId? t.id = none := opened.free_or_asked.resolve_right nofun
      rw [forms_concat normal, eraseDups_concat_of_not_mem new, List.map_append,
        opened.tabs_eq has.registered free, List.map_append, has.tabs, List.map_singleton,
        List.map_singleton, Workspace.title_of_create created rfl own, own]
    · cases read.symm.trans fails.unread

/-- A file that has a path and is not opened fails. -/
theorem HasFiles.refused (has : HasFiles d root w before)
    (normal : d.normalize (.ofString file) = .ok path)
    (done : w.openFile d (.ofString file) = .error f) : Fails d before file f := by
  have opens := Workspace.opens_openFile has.registered d (.ofString file)
  rw [done] at opens
  cases opens with
  | failed new unread =>
    refine ⟨fun {path} normal old => ?_, unread.resolve_left ?_⟩
    · obtain ⟨t, listed, own⟩ := has.mem_forms_iff.mp old
      exact new path normal t listed own
    · rw [normal]
      exact nofun

/-! ### All files -/

/-- All files are opened, or all before the first that fails, and that one is the last gone to. -/
theorem openFiles_outcome (has : HasFiles d root w before)
    (named : ∀ file ∈ files, ∃ path, d.normalize (.ofString file) = .ok path) :
    let o := openFiles d w files
    (NoneFails d before files ∧ o.failed = none ∧ o.tried = files ∧
      HasFiles d root o.workspace (before ++ files)) ∨
    ∃ front file back f, files = front ++ file :: back ∧ NoneFails d before front ∧
      Fails d (before ++ front) file f ∧ o.failed = some (file, f) ∧
      o.tried = front ++ [file] := by
  -- A file that is opened joins those before the rest, and its tab the tabs.
  induction files generalizing w before with
  | nil => exact .inl ⟨.nil d before, rfl, rfl, by rwa [List.append_nil]⟩
  | cons file rest ih =>
    obtain ⟨⟨path, normal⟩, later⟩ := List.forall_mem_cons.mp named
    unfold openFiles
    cases done : w.openFile d (.ofString file) with
    | error f =>
      have fails := has.refused normal done
      exact .inr ⟨[], file, rest, f, rfl, .nil d before, by rwa [List.append_nil], rfl, rfl⟩
    | ok r =>
      obtain ⟨t, w'⟩ := r
      obtain ⟨has', fine⟩ := has.opened done
      rcases ih has' later with ⟨none_, failed, tried, all⟩ |
        ⟨front, file', back, f, same, none_, fails, failed, tried⟩
      · refine .inl ⟨.cons fine none_, failed, congrArg (file :: ·) tried, ?_⟩
        rwa [List.append_assoc, List.singleton_append] at all
      · refine .inr ⟨file :: front, file', back, f, congrArg (file :: ·) same, .cons fine none_, ?_,
          failed, congrArg (file :: ·) tried⟩
        rwa [List.append_assoc, List.singleton_append] at fails

end

end OpenDocs.CommandLine
