import OpenDocs.Proofs.Tabs.Listing
import OpenDocs.Proofs.Tabs.Lookup

/-!
# A file is opened once

Opening a file gives back the first tab that has it and changes nothing, or puts one new tab behind
the others, or fails and changes nothing. It never uses up an untitled number, so these count the
tabs without a file. After nothing but such calls no two tabs have one file.
-/

namespace OpenDocs.Tabs

/-! ### Opening step by step -/

/-- An action on a workspace; what it did before a fault stays done. -/
abbrev Action := ExceptT Disk.Fault (StateM Workspace)

namespace Action

def takeUntitled : Action Nat := do
  let w ← get
  set { w with nextUntitled := w.nextUntitled + 1 }
  pure w.nextUntitled

/-- Opens a tab by one change after the other. -/
def create (d : Disk) (new : NewTab) : Action Tab := do
  let path ← MonadExcept.ofExcept (new.path.mapM d.normalize)
  let untitled ← if path.isNone then some <$> takeUntitled else pure none
  let tab := (← get).newTab path untitled new
  modify fun w => { w with table := Workspace.store tab w.table }
  modify fun w => { w with order := w.order ++ [tab.id] }
  pure tab

/-- The tab of a file, looked up, read and opened one after the other. -/
def openFile (d : Disk) (p : Disk.Path) : Action Tab := do
  match ← MonadExcept.ofExcept ((← get).findByPath d p) with
  | some tab => pure tab
  | none =>
    let text ← MonadExcept.ofExcept (d.readText p none "strict")
    create d { text, path := some p }

/-- What a call gives back and the workspace that it leaves. -/
def leave (w : Workspace) : Except Disk.Fault (Tab × Workspace) → Except Disk.Fault Tab × Workspace
  | .ok (t, w') => (.ok t, w')
  | .error f => (.error f, w)

theorem run_create (d : Disk) (w : Workspace) (new : NewTab) :
    (create d new).run.run w = leave w (w.create d new) := by
  rw [create, run_bind, run_ofExcept, Workspace.create]
  cases new.path.mapM d.normalize with
  | error f => rfl
  | ok path => cases path <;> rfl

/-- No step that may fail comes behind one that changes the workspace. -/
theorem run_openFile (d : Disk) (w : Workspace) (p : Disk.Path) :
    (openFile d p).run.run w = leave w (w.openFile d p) := by
  rw [openFile, Workspace.openFile]
  simp only [run_bind, run_get, run_ofExcept]
  cases w.findByPath d p with
  | error f => rfl
  | ok found =>
    cases found with
    | some t => rfl
    | none =>
      simp only [run_bind, run_ofExcept]
      cases d.readText p none "strict" with
      | error f => rfl
      | ok text => exact run_create d w _

end Action

/-- A call step by step. -/
def Opening.steps (d : Disk) : Opening → Action Tab
  | create new => Action.create d new
  | file p => Action.openFile d p

theorem Opening.run_steps (d : Disk) (w : Workspace) (o : Opening) :
    (o.steps d).run.run w = Action.leave w (o.run d w) := by
  cases o with
  | create new => exact Action.run_create d w new
  | file p => exact Action.run_openFile d w p

namespace Workspace

variable {d : Disk} {w w' : Workspace} {t : Tab} {p : Disk.Path} {f : Disk.Fault}

/-! ### What opening a file does -/

theorem Opened.tabs_eq {new : NewTab} (registered : w.Registered) (opened : Opened d w new t w')
    (free : w.byId? t.id = none) : w'.tabs = w.tabs ++ [t] := by
  have found (id : String) : w'.byId? id = if t.id = id then some t else w.byId? id := by
    rw [byId?, opened.table, find?_store]
    rfl
  have before (id : String) (held : id ∈ w.order) : w'.byId? id = w.byId? id := by
    rw [found, if_neg]
    rintro rfl
    exact registered.byId?_ne_none_iff.mpr held free
  rw [tabs, opened.order, List.filterMap_append, List.filterMap_congr before, tabs]
  simp [found]

/-- Opening a file either finds the first tab that has it, or puts a new tab behind the others, or
fails; only the new tab changes the workspace. -/
inductive Opens (d : Disk) (w : Workspace) (p : Disk.Path) :
    Except Disk.Fault Tab × Workspace → Prop
  | found {path : Disk.Path} {t : Tab} : d.normalize p = .ok path →
      First (·.path = some path) w.tabs t → Opens d w p (.ok t, w)
  | new {path : Disk.Path} {t : Tab} {w' : Workspace} : d.normalize p = .ok path →
      (∀ u ∈ w.tabs, u.path ≠ some path) → d.readText p none "strict" = .ok t.text →
      t.path = some path → t.untitled = none →
      w' = { w with table := w.table ++ [t], order := w.order ++ [t.id] } →
      w'.tabs = w.tabs ++ [t] → Opens d w p (.ok t, w')
  | failed {f : Disk.Fault} :
      (∀ path, d.normalize p = .ok path → ∀ u ∈ w.tabs, u.path ≠ some path) →
      d.normalize p = .error f ∨ d.readText p none "strict" = .error f →
      Opens d w p (.error f, w)

theorem normalize_of_create_error {text : List Char}
    (refused : w.create d { text, path := some p } = .error f) : d.normalize p = .error f := by
  rcases bind_eq_error_iff.mp refused with made | ⟨path, _, made⟩
  · cases normal : d.normalize p with
    | error g => simpa [Option.mapM, normal, Functor.map, Except.map] using made
    | ok path => simp [Option.mapM, normal, Functor.map, Except.map] at made
  · cases made

theorem opens_openFile (registered : w.Registered) (d : Disk) (p : Disk.Path) :
    Opens d w p (Action.leave w (w.openFile d p)) := by
  cases done : w.openFile d p with
  | ok r =>
    obtain ⟨t, w'⟩ := r
    rcases openFile_eq_ok_iff.mp done with ⟨found, rfl⟩ | ⟨absent, text, read, created⟩
    · obtain ⟨path, normal, first⟩ := findByPath_eq_some_iff.mp found
      exact .found normal first
    · have opened := opened_of_create created
      obtain ⟨path, normal, has⟩ := opened.exists_path rfl
      have free : w.byId? t.id = none := opened.free_or_asked.resolve_right nofun
      have untitled := opened.untitled
      have same := opened.nextUntitled
      rw [has, Option.isNone_some, if_neg Bool.false_ne_true] at untitled same
      refine .new normal ((findByPath_none absent).2 path normal) (opened.text ▸ read) has untitled
        ?_ (opened.tabs_eq registered free)
      rw [← store_of_not_mem (byId?_eq_none_iff.mp free), ← opened.table, ← opened.order, ← same,
        ← opened.root]
  | error f =>
    rcases bind_eq_error_iff.mp done with refused | ⟨found, sought, refused⟩
    · obtain ⟨rfl, normal⟩ := findByPath_error refused
      exact .failed (fun path normal' => nomatch normal.symm.trans normal') (.inl normal)
    · cases found with
      | some u => cases refused
      | none =>
        refine .failed (findByPath_none sought).2 ?_
        rcases bind_eq_error_iff.mp refused with unread | ⟨text, _, refused⟩
        · exact .inr unread
        · exact .inl (normalize_of_create_error refused)

/-! ### Untitled numbers -/

theorem Opened.isNone_path {new : NewTab} (opened : Opened d w new t w') :
    t.path.isNone = new.path.isNone := by
  cases asked : new.path with
  | none =>
    have made := opened.path
    rw [asked] at made
    rw [← Except.ok.inj made]
  | some p =>
    obtain ⟨path, _, has⟩ := opened.exists_path asked
    rw [has]
    rfl

/-- A tab without a file can always be opened. -/
theorem exists_create (d : Disk) (w : Workspace) {new : NewTab} (unfiled : new.path = none) :
    ∃ t w', w.create d new = .ok (t, w') := by
  rw [create, unfiled]
  exact ⟨_, _, rfl⟩

theorem nextUntitled_of_run {o : Opening} (done : o.run d w = .ok (t, w')) :
    w'.nextUntitled = w.nextUntitled + if o.path?.isNone then 1 else 0 := by
  cases o with
  | create new =>
    have opened := opened_of_create done
    rw [opened.nextUntitled, opened.isNone_path, Opening.path?]
    split <;> rfl
  | file p =>
    rcases openFile_eq_ok_iff.mp done with ⟨_, rfl⟩ | ⟨_, text, _, created⟩
    · rfl
    · have opened := opened_of_create created
      rw [opened.nextUntitled, opened.isNone_path]
      rfl

end Workspace

namespace Progress

open Workspace

variable {d : Disk} {s : Progress} {cs : List (Disk × Opening)}

theorem nextUntitled_call (s : Progress) (d : Disk) (o : Opening) :
    (s.call d o).workspace.nextUntitled =
      s.workspace.nextUntitled + if o.path?.isNone then 1 else 0 := by
  cases done : o.run d s.workspace with
  | ok r =>
    rw [call, done]
    exact nextUntitled_of_run done
  | error f =>
    rw [call, done, if_neg]
    · rfl
    · intro unfiled
      cases o with
      | create new =>
        obtain ⟨t, w', created⟩ :=
          exists_create d s.workspace (Option.isNone_iff_eq_none.mp unfiled)
        cases done.symm.trans created
      | file p => cases unfiled

/-- The next untitled number counts the calls for a tab without a file. -/
theorem nextUntitled_calls (s : Progress) (cs : List (Disk × Opening)) :
    (s.calls cs).workspace.nextUntitled =
      s.workspace.nextUntitled + cs.countP (·.2.path?.isNone) := by
  induction cs generalizing s with
  | nil => rfl
  | cons c rest ih =>
    rw [calls, ih, nextUntitled_call, List.countP_cons]
    omega

/-! ### Runs that open files only -/

/-- The tabs are those that were given back, and no two have one file. -/
structure OneForEach (s : Progress) : Prop where
  registered : s.workspace.Registered
  tabs : s.workspace.tabs = s.returned.eraseDups
  distinct : (s.workspace.tabs.map (·.path)).Nodup

theorem OneForEach.call (once : s.OneForEach) (d : Disk) (p : Disk.Path) :
    (s.call d (.file p)).OneForEach := by
  have registered := call_registered d (.file p) once.registered
  have opens : Opens d s.workspace p
      (Action.leave s.workspace ((Opening.file p).run d s.workspace)) :=
    opens_openFile once.registered d p
  cases done : (Opening.file p).run d s.workspace with
  | error f =>
    rw [Progress.call, done]
    exact once
  | ok r =>
    obtain ⟨t, w⟩ := r
    rw [done, Action.leave] at opens
    rw [Progress.call, done] at registered ⊢
    cases opens with
    | found _ first =>
      have old := once.tabs ▸ first.mem
      refine ⟨registered, ?_, once.distinct⟩
      rw [eraseDups_concat_of_mem (List.mem_eraseDups.mp old)]
      exact once.tabs
    | new _ other _ has _ _ tabs =>
      have fresh : t ∉ s.workspace.tabs := fun listed => other t listed has
      refine ⟨registered, ?_, ?_⟩
      · have unmet := mt List.mem_eraseDups.mpr (once.tabs ▸ fresh)
        rw [eraseDups_concat_of_not_mem unmet, ← once.tabs]
        exact tabs
      · have unknown : t.path ∉ s.workspace.tabs.map (·.path) := by
          rw [List.mem_map]
          rintro ⟨u, listed, same⟩
          exact other u listed (same.trans has)
        rw [tabs, List.map_append, List.map_singleton, ← List.concat_eq_append, List.nodup_concat]
        exact ⟨unknown, once.distinct⟩

theorem OneForEach.calls (once : s.OneForEach) (files : ∀ c ∈ cs, ∃ p, c.2 = .file p) :
    (s.calls cs).OneForEach := by
  induction cs generalizing s with
  | nil => exact once
  | cons c rest ih =>
    obtain ⟨⟨p, same⟩, later⟩ := List.forall_mem_cons.mp files
    rw [Progress.calls, same]
    exact ih (once.call c.1 p) later

end Progress

open Workspace

/-- After any calls a file is opened in the first tab that has it, and otherwise in a new one
behind the others, and where that fails nothing has changed, whichever step fails. A tab without a
file gets as its number how many such there were, itself included. If files only were opened, the
tabs are those that the calls gave back, in order of the first return, and no two have one file. -/
theorem openFile_of_calls (d : Disk) (root : Option Disk.Path) (w : Workspace)
    (started : Workspace.empty d root = .ok w) (calls : List (Disk × Opening)) :
    let s := (⟨[], w⟩ : Progress).calls calls
    let v := s.workspace
    (∀ d (o : Opening), (o.steps d).run.run v = Action.leave v (o.run d v)) ∧
    (∀ d p, Opens d v p ((Action.openFile d p).run.run v)) ∧
    (∀ d new, new.path = none → ∃ t v', v.create d new = .ok (t, v') ∧
      t.untitled = some (calls.countP (·.2.path?.isNone) + 1)) ∧
    ((∀ c ∈ calls, ∃ p, c.2 = .file p) →
      v.tabs = s.returned.eraseDups ∧ (v.tabs.map (·.path)).Nodup) := by
  intro s v
  have start := registered_of_empty started
  have registered : v.Registered := Progress.calls_registered calls start.registered
  have first : w.nextUntitled = 1 ∧ w.tabs = [] := by
    obtain ⟨path, _, made⟩ := bind_eq_ok_iff.mp started
    obtain rfl := Except.ok.inj made
    exact ⟨rfl, rfl⟩
  refine ⟨fun d o => Opening.run_steps d v o, fun d p => ?_, fun d new unfiled => ?_,
    fun files => ?_⟩
  · rw [Action.run_openFile]
    exact opens_openFile registered d p
  · obtain ⟨t, v', created⟩ := exists_create d v unfiled
    have opened := opened_of_create created
    refine ⟨t, v', created, ?_⟩
    rw [opened.untitled, opened.isNone_path, unfiled, Progress.nextUntitled_calls, first.1,
      Nat.add_comm]
    rfl
  · have once : (⟨[], w⟩ : Progress).OneForEach :=
      ⟨start.registered, first.2, by rw [first.2]; exact List.nodup_nil⟩
    have done := once.calls files
    exact ⟨done.tabs, done.distinct⟩

/-- A file that is opened by two spellings, the second when it is gone, and a directory between. -/
theorem openFile_of_calls_after_deletion :
    let d : Disk := ⟨[(["a"], .file [97]), (["b"], .directory)], [], ⟨1, []⟩, ⟨1, []⟩, [], []⟩
    let bare : Disk := ⟨[], [], ⟨1, []⟩, ⟨1, []⟩, [], []⟩
    let w : Workspace := ⟨⟨1, []⟩, [], [], 1⟩
    let calls : List (Disk × Opening) :=
      [(d, .file (.ofString "a")), (d, .file (.ofString "b")), (bare, .file (.ofString "b/../a"))]
    let s := (⟨[], w⟩ : Progress).calls calls
    Workspace.empty d none = .ok w ∧ s.returned.map (·.text) = [['a'], ['a']] ∧
      s.workspace.tabs = s.returned.eraseDups ∧ s.workspace.tabs.length = 1 ∧
      (∃ f, Opens d s.workspace (.ofString "b") (.error f, s.workspace)) ∧
      ∃ t v', s.workspace.create bare {} = .ok (t, v') ∧ t.untitled = some 1 := by
  intro d bare w calls s
  obtain ⟨_, opens, untitled, files⟩ := openFile_of_calls d none w rfl calls
  have each : ∀ c ∈ calls, ∃ p, c.2 = .file p := by simp [calls]
  obtain ⟨t, v', created, number⟩ := untitled bare {} rfl
  have directory := opens d (.ofString "b")
  rw [Action.run_openFile] at directory
  refine ⟨rfl, by decide +kernel, (files each).1, by decide +kernel, ?_, t, v', created, number⟩
  have refused : (s.workspace.openFile d (.ofString "b")).isOk = false := by decide +kernel
  cases done : s.workspace.openFile d (.ofString "b") with
  | ok r =>
    rw [done] at refused
    cases refused
  | error f =>
    rw [done] at directory
    exact ⟨f, directory⟩

end OpenDocs.Tabs
