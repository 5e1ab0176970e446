import OpenDocs.Proofs.Tabs.Opening
import OpenDocs.Tabs.Editor

/-!
# Every open tab is listed once

The table and the order of a workspace name the same ids at all times. While no tab is opened under
the id of one that is open, they name them alike, and the listing is that of the tabs that were
given back, each at the place of its first return.
-/

namespace OpenDocs.Tabs

/-- A call that opens a tab, or gives back the one that has the file. -/
inductive Opening where
  | create (new : NewTab)
  | file (p : Disk.Path)

namespace Opening

def run (d : Disk) (w : Workspace) : Opening → Except Disk.Fault (Tab × Workspace)
  | create new => w.create d new
  | file p => w.openFile d p

/-- The id that the tab is to have. -/
def id? : Opening → Option String
  | create new => Workspace.given new.id
  | file _ => none

/-- The path that the tab is to have, or to be found by. -/
def path? : Opening → Option Disk.Path
  | create new => new.path
  | file p => some p

/-- A tab is opened under the id of one that is open. -/
def Reuses (d : Disk) (w : Workspace) (o : Opening) : Prop :=
  (∃ r, o.run d w = .ok r) ∧ ∃ id, o.id? = some id ∧ w.byId? id ≠ none

end Opening

/-- The tabs that calls have given back so far, and the workspace that they have made. -/
structure Progress where
  returned : List Tab
  workspace : Workspace

namespace Progress

/-- A call that fails gives nothing back and changes nothing. -/
def call (s : Progress) (d : Disk) (o : Opening) : Progress :=
  match o.run d s.workspace with
  | .ok (t, w) => ⟨s.returned ++ [t], w⟩
  | .error _ => s

/-- Each call finds the disk as it is then. -/
def calls (s : Progress) : List (Disk × Opening) → Progress
  | [] => s
  | (d, o) :: rest => (s.call d o).calls rest

def KeepsIds (s : Progress) : List (Disk × Opening) → Prop
  | [] => True
  | (d, o) :: rest => ¬ o.Reuses d s.workspace ∧ (s.call d o).KeepsIds rest

end Progress

namespace Workspace

variable {d : Disk} {w w' : Workspace} {t : Tab} {table : List Tab}

theorem store_of_not_mem (new : t.id ∉ table.map (·.id)) : store t table = table ++ [t] := by
  induction table with
  | nil => rfl
  | cons u rest ih =>
    obtain ⟨other, later⟩ := not_or.mp (mt List.mem_cons.mpr new)
    rw [store, if_neg (Ne.symm other), ih later, List.cons_append]

theorem map_id_store_of_mem (old : t.id ∈ table.map (·.id)) :
    (store t table).map (·.id) = table.map (·.id) := by
  induction table with
  | nil => cases old
  | cons u rest ih =>
    rw [store]
    split
    · next same => rw [List.map_cons, List.map_cons, same]
    · next other =>
      rcases List.mem_cons.mp old with here | later
      · exact absurd here.symm other
      · rw [List.map_cons, ih later, List.map_cons]

/-- What a call does: it gives back a tab that is listed, or opens a new one. -/
theorem run_cases {o : Opening} (done : o.run d w = .ok (t, w')) :
    w' = w ∧ t ∈ w.tabs ∧ o.id? = none ∨ ∃ new, Opened d w new t w' ∧ o.id? = given new.id := by
  cases o with
  | create new => exact .inr ⟨new, opened_of_create done, rfl⟩
  | file p =>
    rcases openFile_eq_ok_iff.mp done with ⟨found, rfl⟩ | ⟨_, text, _, created⟩
    · exact .inl ⟨rfl, (mem_tabs_of_findByPath found).1, rfl⟩
    · exact .inr ⟨_, opened_of_create created, rfl⟩

/-- The table has one tab for each id, and the order names the same ids. -/
structure Registered (w : Workspace) : Prop where
  distinct : (w.table.map (·.id)).Nodup
  mem_order_iff : ∀ id, id ∈ w.order ↔ id ∈ w.table.map (·.id)

theorem Registered.byId?_ne_none_iff (registered : w.Registered) {id : String} :
    w.byId? id ≠ none ↔ id ∈ w.order := by
  rw [Ne, byId?_eq_none_iff, not_not, registered.mem_order_iff]

theorem Registered.opened {new : NewTab} (registered : w.Registered)
    (opened : Opened d w new t w') : w'.Registered := by
  have named (id : String) : id ∈ w'.order ↔ id ∈ w.table.map (·.id) ∨ id = t.id := by
    rw [opened.order, List.mem_append, registered.mem_order_iff, List.mem_singleton]
  by_cases old : t.id ∈ w.table.map (·.id)
  · have keys := map_id_store_of_mem old
    refine ⟨by rw [opened.table, keys]; exact registered.distinct, fun id => ?_⟩
    rw [named, opened.table, keys]
    exact or_iff_left_of_imp fun same => same ▸ old
  · have keys : w'.table.map (·.id) = w.table.map (·.id) ++ [t.id] := by
      rw [opened.table, store_of_not_mem old, List.map_append, List.map_singleton]
    refine ⟨?_, fun id => by rw [named, keys, List.mem_append, List.mem_singleton]⟩
    rw [keys, ← List.concat_eq_append, List.nodup_concat]
    exact ⟨old, registered.distinct⟩

theorem Registered.byId?_of_mem (registered : w.Registered) (held : t ∈ w.table) :
    w.byId? t.id = some t := by
  cases found : w.byId? t.id with
  | none => exact absurd (List.mem_map_of_mem held) (byId?_eq_none_iff.mp found)
  | some u =>
    obtain ⟨held', same⟩ := mem_table_of_byId? found
    rw [List.inj_on_of_nodup_map registered.distinct held' held same]

theorem Registered.mem_tabs_of_mem_table (registered : w.Registered) (held : t ∈ w.table) :
    t ∈ w.tabs :=
  mem_tabs_iff.mpr ⟨t.id, (registered.mem_order_iff _).mpr (List.mem_map_of_mem held),
    registered.byId?_of_mem held⟩

/-- No identifier leads to a tab that is not listed. -/
theorem Registered.mem_tabs_of_get (registered : w.Registered) {identifier : String}
    (got : w.get d identifier = .ok t) : t ∈ w.tabs := by
  rw [get] at got
  split at got
  · next u named =>
    obtain rfl := Except.ok.inj got
    rcases Option.or_eq_some_iff.mp named with titled | ⟨_, found⟩
    · exact List.mem_of_find?_eq_some titled
    · exact registered.mem_tabs_of_mem_table (mem_table_of_byId? found).1
  · split at got
    · next u found =>
      obtain rfl := Except.ok.inj got
      exact (mem_tabs_of_findByPath found).1
    · cases got
    · cases got

/-- The order names the tabs of the table as they stand there. -/
theorem Registered.tabs_eq_table (registered : w.Registered)
    (alike : w.order = w.table.map (·.id)) : w.tabs = w.table := by
  have each (u : Tab) (held : u ∈ w.table) : w.byId? u.id = some u := registered.byId?_of_mem held
  rw [tabs, alike, List.filterMap_map]
  calc w.table.filterMap (w.byId? ∘ (·.id))
      = w.table.filterMap some := List.filterMap_congr each
    _ = w.table := List.filterMap_some

end Workspace

section

variable {Item : Type} [DecidableEq Item] {xs : List Item} {x : Item}

theorem eraseDups_concat_of_mem (old : x ∈ xs) : (xs ++ [x]).eraseDups = xs.eraseDups := by
  rw [List.eraseDups_append]
  simp [List.removeAll, old]

theorem eraseDups_concat_of_not_mem (new : x ∉ xs) :
    (xs ++ [x]).eraseDups = xs.eraseDups ++ [x] := by
  rw [List.eraseDups_append]
  simp [List.removeAll, new, List.eraseDups_cons]

end

namespace Progress

open Workspace

variable {d : Disk} {o : Opening} {s : Progress} {cs : List (Disk × Opening)}

theorem call_registered (d : Disk) (o : Opening) (registered : s.workspace.Registered) :
    (s.call d o).workspace.Registered := by
  rw [call]
  split
  · next t w done =>
    rcases run_cases done with ⟨rfl, _⟩ | ⟨new, opened, _⟩
    · exact registered
    · exact registered.opened opened
  · exact registered

theorem calls_registered (cs : List (Disk × Opening)) (registered : s.workspace.Registered) :
    (s.calls cs).workspace.Registered := by
  induction cs generalizing s with
  | nil => exact registered
  | cons c rest ih => exact ih (call_registered c.1 c.2 registered)

/-- A run that keeps to new ids: order and table name the tabs alike, which are those that were
given back. -/
structure InStep (s : Progress) : Prop where
  registered : s.workspace.Registered
  order : s.workspace.order = s.workspace.table.map (·.id)
  returned : s.workspace.table = s.returned.eraseDups

theorem InStep.call (inStep : s.InStep) (new : ¬ o.Reuses d s.workspace) : (s.call d o).InStep := by
  have registered := call_registered d o inStep.registered
  cases done : o.run d s.workspace with
  | error f =>
    rw [Progress.call, done]
    exact inStep
  | ok r =>
    obtain ⟨t, w⟩ := r
    rw [Progress.call, done] at registered ⊢
    rcases run_cases done with ⟨rfl, listed, _⟩ | ⟨asked, opened, same⟩
    · refine ⟨registered, inStep.order, ?_⟩
      have old : t ∈ s.returned := by
        have held := mem_table_of_mem_tabs listed
        rw [inStep.returned] at held
        exact List.mem_eraseDups.mp held
      rw [inStep.returned, eraseDups_concat_of_mem old]
    · have free : s.workspace.byId? t.id = none := by
        rcases opened.free_or_asked with free | asked
        · exact free
        · by_contra used
          exact new ⟨⟨_, done⟩, t.id, same.trans asked, used⟩
      have unknown := byId?_eq_none_iff.mp free
      have fresh : t ∉ s.returned := by
        intro old
        rw [inStep.returned] at unknown
        exact unknown (List.mem_map_of_mem (List.mem_eraseDups.mpr old))
      refine ⟨registered, ?_, ?_⟩
      · rw [opened.order, opened.table, store_of_not_mem unknown, List.map_append, inStep.order,
          List.map_singleton]
      · rw [opened.table, store_of_not_mem unknown, inStep.returned,
          eraseDups_concat_of_not_mem fresh]

theorem InStep.calls (inStep : s.InStep) (kept : s.KeepsIds cs) : (s.calls cs).InStep := by
  induction cs generalizing s with
  | nil => exact inStep
  | cons c rest ih => exact ih (inStep.call kept.1) kept.2

theorem order_isPrefix_call (s : Progress) (d : Disk) (o : Opening) :
    s.workspace.order <+: (s.call d o).workspace.order := by
  rw [call]
  split
  · next t w done =>
    rcases run_cases done with ⟨rfl, _⟩ | ⟨new, opened, _⟩
    · exact List.prefix_rfl
    · exact ⟨[t.id], opened.order.symm⟩
  · exact List.prefix_rfl

theorem order_isPrefix_calls (s : Progress) (cs : List (Disk × Opening)) :
    s.workspace.order <+: (s.calls cs).workspace.order := by
  induction cs generalizing s with
  | nil => exact List.prefix_rfl
  | cons c rest ih => exact (order_isPrefix_call s c.1 c.2).trans (ih _)

/-- An id that is used again stands in the order twice from then on. -/
theorem not_nodup_of_reuses (registered : s.workspace.Registered)
    (reused : o.Reuses d s.workspace) : ¬ (s.call d o).workspace.order.Nodup := by
  obtain ⟨⟨⟨t, w⟩, done⟩, id, asked, used⟩ := reused
  rw [call, done]
  rcases run_cases done with ⟨_, _, unasked⟩ | ⟨new, opened, same⟩
  · rw [asked] at unasked
    cases unasked
  · have named : t.id = id := by rw [opened.id, ← same, asked, Option.getD_some]
    rw [opened.order, ← List.concat_eq_append, List.nodup_concat, named]
    exact fun twice => twice.1 (registered.byId?_ne_none_iff.mp used)

theorem keepsIds_of_nodup (registered : s.workspace.Registered)
    (distinct : (s.calls cs).workspace.order.Nodup) : s.KeepsIds cs := by
  induction cs generalizing s with
  | nil => trivial
  | cons c rest ih =>
    refine ⟨fun reused => ?_, ih (call_registered c.1 c.2 registered) distinct⟩
    exact not_nodup_of_reuses registered reused
      (distinct.sublist (order_isPrefix_calls (s.call c.1 c.2) rest).sublist)

end Progress

namespace Workspace

theorem registered_of_empty {d : Disk} {root : Option Disk.Path} {w : Workspace}
    (started : empty d root = .ok w) : (⟨[], w⟩ : Progress).InStep := by
  rw [empty] at started
  obtain ⟨path, _, made⟩ := bind_eq_ok_iff.mp started
  obtain rfl := Except.ok.inj made
  exact ⟨⟨List.nodup_nil, fun id => Iff.rfl⟩, rfl, rfl⟩

end Workspace

namespace Editor

open Workspace

/-- After any calls, table and order name the same ids, the table each of them once, and no
identifier leads to a tab that is not listed. The order repeats an id exactly if one was used again.
If none was, the tabs and the documents are those that the calls gave back, each once, in the order
of opening. -/
theorem documents_of_calls (d : Disk) (root : Option Disk.Path) (w : Workspace)
    (started : Workspace.empty d root = .ok w) (calls : List (Disk × Opening)) :
    let s := (⟨[], w⟩ : Progress).calls calls
    let v := s.workspace
    ((v.table.map (·.id)).Nodup ∧ (∀ id, id ∈ v.order ↔ id ∈ v.table.map (·.id)) ∧
      ∀ d identifier t, v.get d identifier = .ok t → t ∈ v.tabs) ∧
    (v.order.Nodup ↔ (⟨[], w⟩ : Progress).KeepsIds calls) ∧
    ((⟨[], w⟩ : Progress).KeepsIds calls →
      v.order = v.table.map (·.id) ∧ v.tabs = s.returned.eraseDups ∧
      ∀ e : Editor, e.workspace = v →
        e.documents = s.returned.eraseDups.map fun t => (t.title, v.shownPath t)) := by
  intro s v
  have start := registered_of_empty started
  have registered : v.Registered := Progress.calls_registered calls start.registered
  refine ⟨⟨registered.distinct, registered.mem_order_iff, fun _ _ _ => registered.mem_tabs_of_get⟩,
    ⟨Progress.keepsIds_of_nodup start.registered, fun kept => ?_⟩, fun kept => ?_⟩
  · have inStep := start.calls kept
    exact inStep.order ▸ registered.distinct
  · have inStep := start.calls kept
    have listed : v.tabs = s.returned.eraseDups :=
      (registered.tabs_eq_table inStep.order).trans inStep.returned
    refine ⟨inStep.order, listed, fun e same => ?_⟩
    rw [documents, same, listed]

/-- A tab under an id of its own, a file that is opened by two spellings, and a tab without
either. -/
theorem documents_of_three_calls_and_one_again :
    let d : Disk := ⟨[(["a.md"], .file [97])], [], ⟨1, []⟩, ⟨1, []⟩, [], []⟩
    let w : Workspace := ⟨⟨1, []⟩, [], [], 1⟩
    let calls : List (Disk × Opening) :=
      [(d, .create { id := some "x", title := some "b" }), (d, .file (.ofString "a.md")),
        (d, .file (.ofString "./a.md")), (d, .create {})]
    Workspace.empty d none = .ok w ∧ (⟨[], w⟩ : Progress).KeepsIds calls ∧
      let s := (⟨[], w⟩ : Progress).calls calls
      s.workspace.tabs = s.returned.eraseDups ∧
        s.returned.map (·.title) = ["b", "a.md", "a.md", "Untitled-2"] ∧
        s.workspace.tabs.map (·.title) = ["b", "a.md", "Untitled-2"] := by
  intro d w calls
  have outcome := documents_of_calls d none w rfl calls
  have kept := outcome.2.1.mp (by decide +kernel)
  exact ⟨rfl, kept, (outcome.2.2 kept).2.1, by decide +kernel, by decide +kernel⟩

/-- A tab that is opened under the id of another takes its place, and is listed at both. -/
theorem documents_of_reused_id :
    let d : Disk := ⟨[], [], ⟨1, []⟩, ⟨1, []⟩, [], []⟩
    let s := (⟨[], ⟨⟨1, []⟩, [], [], 1⟩⟩ : Progress).calls
      [(d, .create { id := some "x", title := some "a" }),
        (d, .create { id := some "x", title := some "b" })]
    s.returned.map (·.title) = ["a", "b"] ∧ s.workspace.tabs.map (·.title) = ["b", "b"] ∧
      s.workspace.order = ["x", "x"] := by
  decide

end Editor

end OpenDocs.Tabs
