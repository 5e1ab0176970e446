import OpenDocs.Proofs.Tabs.Listing
import OpenDocs.Proofs.Tabs.Lookup

/-!
# Which tab an identifier is for

Titles, ids and paths are one space of names. A title comes before an id and an id before a path,
and of several tabs the first one counts. So a listed name always leads to the first tab that is
listed under it, whatever other tabs are called.
-/

namespace OpenDocs.Tabs

namespace Workspace

/-- How workspaces come about, by calls that open tabs and by changes to the open ones. -/
inductive Reached : Workspace → Prop
  | empty {d root w} : empty d root = .ok w → Reached w
  | called {w t w'} (d : Disk) (o : Opening) : Reached w → o.run d w = .ok (t, w') → Reached w'
  | updated {w} (id : String) (f : Tab → Tab) : Reached w → Reached (w.update id f)

/-- The tab that an identifier is for. -/
inductive Prefers (d : Disk) (w : Workspace) (identifier : String) (t : Tab) : Prop
  | title : First (·.title = identifier) w.tabs t → Prefers d w identifier t
  | id : (∀ u ∈ w.tabs, u.title ≠ identifier) → t ∈ w.tabs → t.id = identifier →
      Prefers d w identifier t
  | path {path : Disk.Path} : (∀ u ∈ w.tabs, u.title ≠ identifier ∧ u.id ≠ identifier) →
      d.normalize (.ofString identifier) = .ok path → First (·.path = some path) w.tabs t →
      Prefers d w identifier t

variable {d : Disk} {w : Workspace} {t : Tab} {identifier : String}

theorem Registered.update (registered : w.Registered) (id : String) (f : Tab → Tab) :
    (w.update id f).Registered := by
  have keys : (w.update id f).table.map (·.id) = w.table.map (·.id) := by
    rw [Workspace.update, List.map_map]
    refine List.map_congr_left fun t _ => ?_
    rw [Function.comp_apply]
    split <;> rfl
  exact ⟨keys ▸ registered.distinct, fun other => keys ▸ registered.mem_order_iff other⟩

theorem Reached.registered (reached : Reached w) : w.Registered := by
  induction reached with
  | empty started => exact (registered_of_empty started).registered
  | called d o _ done registered =>
    rcases run_cases done with ⟨rfl, _⟩ | ⟨new, opened, _⟩
    · exact registered
    · exact registered.opened opened
  | updated id f _ registered => exact registered.update id f

theorem findByTitle?_eq_some_iff :
    w.findByTitle? identifier = some t ↔ First (·.title = identifier) w.tabs t :=
  find?_eq_some_iff_first fun _ => beq_iff_eq

theorem findByTitle?_eq_none_iff :
    w.findByTitle? identifier = none ↔ ∀ u ∈ w.tabs, u.title ≠ identifier := by
  simp [findByTitle?]

theorem Registered.byId?_eq_some_iff (registered : w.Registered) :
    w.byId? identifier = some t ↔ t ∈ w.tabs ∧ t.id = identifier := by
  constructor
  · intro found
    obtain ⟨held, same⟩ := mem_table_of_byId? found
    exact ⟨registered.mem_tabs_of_mem_table held, same⟩
  · rintro ⟨listed, rfl⟩
    exact registered.byId?_of_mem (mem_table_of_mem_tabs listed)

theorem Registered.byId?_eq_none_iff (registered : w.Registered) :
    w.byId? identifier = none ↔ ∀ u ∈ w.tabs, u.id ≠ identifier := by
  simp only [Option.eq_none_iff_forall_ne_some, Ne, registered.byId?_eq_some_iff, not_and]

theorem Registered.get_eq_ok_iff_prefers (registered : w.Registered) :
    w.get d identifier = .ok t ↔ Prefers d w identifier t := by
  constructor
  · intro got
    rw [get] at got
    split at got
    · next u named =>
      obtain rfl := Except.ok.inj got
      rcases Option.or_eq_some_iff.mp named with titled | ⟨untitled, held⟩
      · exact .title (findByTitle?_eq_some_iff.mp titled)
      · obtain ⟨listed, same⟩ := registered.byId?_eq_some_iff.mp held
        exact .id (findByTitle?_eq_none_iff.mp untitled) listed same
    · next absent =>
      obtain ⟨untitled, unknown⟩ := Option.or_eq_none_iff.mp absent
      split at got
      · next u found =>
        obtain rfl := Except.ok.inj got
        obtain ⟨path, normal, first⟩ := findByPath_eq_some_iff.mp found
        exact .path (fun u listed => ⟨findByTitle?_eq_none_iff.mp untitled u listed,
          registered.byId?_eq_none_iff.mp unknown u listed⟩) normal first
      · cases got
      · cases got
  · intro preferred
    rw [get]
    cases preferred with
    | title first => rw [findByTitle?_eq_some_iff.mpr first, Option.some_or]
    | id untitled listed same =>
      rw [findByTitle?_eq_none_iff.mpr untitled, Option.none_or,
        registered.byId?_eq_some_iff.mpr ⟨listed, same⟩]
    | path unnamed normal first =>
      rw [findByTitle?_eq_none_iff.mpr fun u listed => (unnamed u listed).1, Option.none_or,
        registered.byId?_eq_none_iff.mpr fun u listed => (unnamed u listed).2]
      rw [findByPath_eq_some_iff.mpr ⟨_, normal, first⟩]

/-- Of the tabs with a title there is a first. -/
theorem exists_first_title (listed : t ∈ w.tabs) : ∃ u, First (·.title = t.title) w.tabs u := by
  cases found : w.findByTitle? t.title with
  | some u => exact ⟨u, findByTitle?_eq_some_iff.mp found⟩
  | none => exact absurd rfl (findByTitle?_eq_none_iff.mp found t listed)

/-- A title or an id is enough, whatever the disk is. -/
theorem Registered.exists_get (registered : w.Registered) (listed : t ∈ w.tabs)
    (named : t.title = identifier ∨ t.id = identifier) :
    ∃ u, ∀ d, w.get d identifier = .ok u := by
  by_cases titled : ∃ u ∈ w.tabs, u.title = identifier
  · obtain ⟨u, held, rfl⟩ := titled
    obtain ⟨v, first⟩ := exists_first_title held
    exact ⟨v, fun d => registered.get_eq_ok_iff_prefers.mpr (.title first)⟩
  · have untitled (u : Tab) (held : u ∈ w.tabs) : u.title ≠ identifier :=
      fun same => titled ⟨u, held, same⟩
    have same := named.resolve_left (untitled t listed)
    exact ⟨t, fun d => registered.get_eq_ok_iff_prefers.mpr (.id untitled listed same)⟩

end Workspace

open Workspace

/-- An identifier leads to the first tab with that title, else to the tab with that id, else to the
first tab with the file that it names as a path, and the disk plays no part where there is one of
the first two. So from the buffers each listed name is answered with the first document listed
under it. -/
theorem get_of_reached (w : Workspace) (reached : Reached w) :
    (∀ d identifier t, w.get d identifier = .ok t ↔ Prefers d w identifier t) ∧
    (∀ identifier, (∃ t ∈ w.tabs, t.title = identifier ∨ t.id = identifier) →
      ∃ t, ∀ d, w.get d identifier = .ok t) ∧
    ∀ e : Editor, e.workspace = w → e.source = .buffer → ∀ entry ∈ e.documents,
      ∃ t, First (·.title = entry.1) w.tabs t ∧ ∀ d, e.resolve d entry.1 =
        .ok { label := t.title, text := t.text, path := t.path, language := t.language,
              version := t.version } := by
  have registered := reached.registered
  refine ⟨fun d identifier t => registered.get_eq_ok_iff_prefers, ?_, ?_⟩
  · rintro identifier ⟨t, listed, named⟩
    exact registered.exists_get listed named
  · rintro e rfl buffer entry shown
    obtain ⟨t, listed, rfl⟩ := List.mem_map.mp shown
    obtain ⟨u, first⟩ := exists_first_title listed
    refine ⟨u, first, fun d => Editor.resolve_eq_ok_iff.mpr ⟨u, u.text, ?_, ?_, rfl⟩⟩
    · exact registered.get_eq_ok_iff_prefers.mpr (.title first)
    · exact Editor.textOf_buffer buffer u

/-- Two tabs with one title, which is also the id of the tab between them, whose title is a path. -/
theorem get_of_reached_with_clashes :
    let d : Disk := ⟨[], [], ⟨1, []⟩, ⟨1, []⟩, [], []⟩
    let a : Tab := ⟨"x", "y", none, "plain_text", ['1'], 1, some 1⟩
    let b : Tab := ⟨"y", "/q", some ⟨1, ["p"]⟩, "md", ['2'], 1, none⟩
    let c : Tab := ⟨"z", "y", some ⟨1, ["q"]⟩, "md", ['3'], 1, none⟩
    let w : Workspace := ⟨⟨1, []⟩, [a, b, c], ["x", "y", "z"], 2⟩
    Reached w ∧ w.get d "y" = .ok a ∧ w.get d "z" = .ok c ∧ w.get d "/q" = .ok b ∧
      w.get d "/p" = .ok b ∧
      (⟨w, .buffer, ⟨⟨1, []⟩, 3, [], none, []⟩⟩ : Editor).resolve d "y" =
        .ok ⟨"y", ['1'], none, "plain_text", 1⟩ := by
  intro d a b c w
  have started : empty d none = .ok ⟨⟨1, []⟩, [], [], 1⟩ := rfl
  have one : Reached ⟨⟨1, []⟩, [a], ["x"], 2⟩ :=
    .called d (.create ⟨['1'], none, some "y", none, some "x"⟩) (.empty started) rfl
  have two : Reached ⟨⟨1, []⟩, [a, b], ["x", "y"], 2⟩ :=
    .called d (.create ⟨['2'], some ⟨1, ["p"]⟩, some "/q", some "md", some "y"⟩) one rfl
  have reached : Reached w :=
    .called d (.create ⟨['3'], some ⟨1, ["q"]⟩, some "y", some "md", some "z"⟩) two rfl
  obtain ⟨gets, _, documents⟩ := get_of_reached w reached
  have title : w.get d "y" = .ok a := (gets d "y" a).mpr (.title ⟨[], [b, c], rfl, rfl, nofun⟩)
  have id : w.get d "z" = .ok c := (gets d "z" c).mpr (.id (by decide) (by decide) rfl)
  have slashes : w.get d "/q" = .ok b :=
    (gets d "/q" b).mpr (.title ⟨[a], [c], rfl, rfl, by decide⟩)
  have path : w.get d "/p" = .ok b :=
    (gets d "/p" b).mpr (.path (by decide) (by decide +kernel) ⟨[a], [c], rfl, rfl, by decide⟩)
  obtain ⟨t, first, answered⟩ := documents ⟨w, .buffer, ⟨⟨1, []⟩, 3, [], none, []⟩⟩ rfl rfl
    ("y", "y") (List.mem_map.mpr ⟨a, by decide, rfl⟩)
  obtain rfl := Except.ok.inj (title.symm.trans ((gets d "y" t).mpr (.title first)))
  exact ⟨reached, title, id, slashes, path, answered d⟩

end OpenDocs.Tabs
