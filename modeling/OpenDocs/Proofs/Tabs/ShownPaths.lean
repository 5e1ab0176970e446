import OpenDocs.Proofs.Disk.Spelling
import OpenDocs.Proofs.Tabs.Listing

/-!
# Shown paths as identifiers

A path is shown as it is seen from the root of the workspace, and looked up from the working
directory or, behind a tilde, from a home. So the shown path of a tab leads to a tab with the same
file where the file lies outside the root, where the root is the working directory and no tilde is
in front, and where the name with the tilde is a directory of the root and the home that it stands
for.
-/

namespace OpenDocs.Tabs

namespace Workspace

/-- How workspaces come about. Tabs are opened with paths that texts spell, each on the disk as it
is then, and change in any way that leaves them their paths. -/
inductive Arises : Workspace → Prop
  | empty {d root w} : empty d root = .ok w → Arises w
  | opened {d w o t w'} : Arises w → d.Situated → (∀ p, Opening.path? o = some p → p.Proper) →
      o.run d w = .ok (t, w') → Arises w'
  | updated {w id f} : Arises w → (∀ t, (f t).path = t.path) → Arises (w.update id f)

variable {d : Disk} {w w' : Workspace} {t u : Tab} {p : Disk.Path}

/-! ### The paths of tabs -/

/-- All tabs have paths in normal form, if any. -/
def Settled (w : Workspace) : Prop := ∀ t ∈ w.table, ∀ p, t.path = some p → p.Settled

theorem mem_of_mem_store {table : List Tab} (held : u ∈ store t table) : u = t ∨ u ∈ table := by
  induction table with
  | nil => exact .inl (List.mem_singleton.mp held)
  | cons v rest ih =>
    rw [store] at held
    split at held
    · exact (List.mem_cons.mp held).imp_right (List.mem_cons_of_mem v)
    · rcases List.mem_cons.mp held with rfl | later
      · exact .inr List.mem_cons_self
      · exact (ih later).imp_right (List.mem_cons_of_mem v)

theorem Opened.exists_normalize {new : NewTab} (opened : Opened d w new t w')
    (has : t.path = some p) : ∃ q, new.path = some q ∧ d.normalize q = .ok p := by
  cases asked : new.path with
  | none =>
    have made := opened.path
    rw [asked, has] at made
    cases made
  | some q =>
    obtain ⟨path, normal, same⟩ := opened.exists_path asked
    rw [has] at same
    exact ⟨q, rfl, normal.trans (congrArg _ (Option.some.inj same).symm)⟩

theorem Settled.opened {new : NewTab} (settled : w.Settled) (situated : d.Situated)
    (proper : ∀ p, new.path = some p → p.Proper) (opened : Opened d w new t w') : w'.Settled := by
  intro u held p has
  rw [opened.table] at held
  rcases mem_of_mem_store held with rfl | old
  · obtain ⟨q, asked, normal⟩ := opened.exists_normalize has
    exact situated.normalize_settled (proper q asked) normal
  · exact settled u old p has

theorem Settled.run {o : Opening} (settled : w.Settled) (situated : d.Situated)
    (proper : ∀ p, o.path? = some p → p.Proper) (done : o.run d w = .ok (t, w')) : w'.Settled := by
  cases o with
  | create new => exact settled.opened situated proper (opened_of_create done)
  | file q =>
    rcases openFile_eq_ok_iff.mp done with ⟨_, rfl⟩ | ⟨_, text, _, created⟩
    · exact settled
    · exact settled.opened situated proper (opened_of_create created)

theorem Arises.settled (arises : Arises w) : w.Settled := by
  induction arises with
  | empty started =>
    rw [Workspace.empty] at started
    obtain ⟨path, _, made⟩ := bind_eq_ok_iff.mp started
    obtain rfl := Except.ok.inj made
    intro t held
    cases held
  | opened _ situated proper done settled => exact settled.run situated proper done
  | updated _ kept settled =>
    intro t held p has
    obtain ⟨old, listed, rfl⟩ := List.mem_map.mp held
    refine settled old listed p ?_
    split at has
    · exact (kept old).symm.trans has
    · exact has

/-! ### Lookup of a shown path -/

theorem ofString_shownPath (w : Workspace) (has : t.path = some p) (settled : p.Settled) :
    .ofString (w.shownPath t) = (p.relativeTo? w.root).getD p := by
  rw [shownPath, has]
  refine Disk.Path.Proper.ofString_text ?_
  cases under : p.relativeTo? w.root with
  | none => exact settled.proper
  | some q =>
    obtain ⟨relative, names⟩ := Disk.names_of_relativeTo? under
    refine ⟨relative ▸ by decide, fun name held => settled.proper.names name ?_⟩
    rw [names]
    exact List.mem_append_right _ held

/-- Looking a path up leads to the tabs of one file, that of its normal form. -/
theorem findByPath_leads_iff (listed : t ∈ w.tabs) (has : t.path = some p) (q : Disk.Path) :
    (∃ u, w.findByPath d q = .ok (some u) ∧ u.path = some p) ↔ d.normalize q = .ok p := by
  constructor
  · rintro ⟨u, found, same⟩
    obtain ⟨_, path, normal, other⟩ := mem_tabs_of_findByPath found
    rw [same] at other
    exact normal.trans (congrArg _ (Option.some.inj other).symm)
  · intro normal
    rw [findByPath, normal]
    have some_ : (w.tabs.find? (·.path == some p)).isSome := by
      rw [List.find?_isSome]
      exact ⟨t, listed, beq_iff_eq.mpr has⟩
    obtain ⟨u, found⟩ := Option.isSome_iff_exists.mp some_
    exact ⟨u, congrArg _ found, by simpa using List.find?_some found⟩

theorem get_eq_ok_iff {identifier : String} (untitled : w.findByTitle? identifier = none)
    (unknown : w.byId? identifier = none) :
    w.get d identifier = .ok u ↔ w.findByPath d (.ofString identifier) = .ok (some u) := by
  rw [get, untitled, unknown, Option.none_or]
  dsimp only
  split
  · next v found => simp [found]
  · next found => simp [found]
  · next f found => simp [found]

/-- A workspace with a root and one file in it. -/
theorem arises_with_one_file :
    let t : Tab := ⟨"x", "A", some ⟨1, ["docs", "a.md"]⟩, "markdown", [], 1, none⟩
    Arises ⟨⟨1, ["docs"]⟩, [t], ["x"], 1⟩ := by
  intro t
  let d : Disk := ⟨[], [], ⟨1, []⟩, ⟨1, []⟩, [], []⟩
  let new : NewTab := ⟨[], some ⟨1, ["docs", "a.md"]⟩, some "A", some "markdown", some "x"⟩
  have rooted : empty d (some ⟨1, ["docs"]⟩) = .ok ⟨⟨1, ["docs"]⟩, [], [], 1⟩ := rfl
  have situated : d.Situated :=
    ⟨⟨rfl, by decide⟩, Disk.forall_mem_homes.mpr ⟨⟨by decide, by decide⟩, List.forall_mem_nil _⟩⟩
  refine .opened (.empty rooted) situated (o := .create new) (t := t) (fun p same => ?_) rfl
  obtain rfl := Option.some.inj same
  exact ⟨by decide, by decide⟩

/-- The shown path of a tab leads to a tab with its file in these cases and no others, both when
it is looked up as a path and when it is looked up as an identifier that is no title and no id. -/
theorem shownPath_leads_iff (arises : Arises w) (situated : d.Situated) (listed : t ∈ w.tabs)
    (has : t.path = some p) :
    ((∃ u, w.findByPath d (.ofString (w.shownPath t)) = .ok (some u) ∧ u.path = some p) ↔
      d.LeadsBack w.root p) ∧
    (w.findByTitle? (w.shownPath t) = none → w.byId? (w.shownPath t) = none →
      ((∃ u, w.get d (w.shownPath t) = .ok u ∧ u.path = some p) ↔ d.LeadsBack w.root p)) := by
  have settled := arises.settled t (mem_table_of_mem_tabs listed) p has
  have leads : (∃ u, w.findByPath d (.ofString (w.shownPath t)) = .ok (some u) ∧
      u.path = some p) ↔ d.LeadsBack w.root p := by
    rw [findByPath_leads_iff listed has, ofString_shownPath w has settled]
    exact situated.normalize_seen_iff settled
  refine ⟨leads, fun untitled unknown => ?_⟩
  simp only [get_eq_ok_iff untitled unknown]
  exact leads

/-- A file in the root, which is the working directory, leads back by its name. -/
theorem shownPath_leads_inside :
    let d : Disk := ⟨[], ["docs"], ⟨1, ["home"]⟩, ⟨1, []⟩, [], []⟩
    let t : Tab := ⟨"x", "A", some ⟨1, ["docs", "a.md"]⟩, "markdown", [], 1, none⟩
    let w : Workspace := ⟨⟨1, ["docs"]⟩, [t], ["x"], 1⟩
    w.shownPath t = "a.md" ∧
      (∃ u, w.findByPath d (.ofString (w.shownPath t)) = .ok (some u) ∧ u.path = t.path) ∧
      ∃ u, w.get d (w.shownPath t) = .ok u ∧ u.path = t.path := by
  intro d t w
  have situated : d.Situated :=
    ⟨⟨rfl, by decide⟩, Disk.forall_mem_homes.mpr ⟨⟨by decide, by decide⟩, List.forall_mem_nil _⟩⟩
  have seen : (⟨1, ["docs", "a.md"]⟩ : Disk.Path).relativeTo? w.root = some ⟨0, ["a.md"]⟩ := by
    decide
  have back : d.LeadsBack w.root ⟨1, ["docs", "a.md"]⟩ := .inside seen (by decide) rfl
  obtain ⟨byPath, byIdentifier⟩ :=
    shownPath_leads_iff arises_with_one_file situated (t := t) (by decide) rfl
  refine ⟨by decide +kernel, byPath.mpr back, (byIdentifier ?_ ?_).mpr back⟩
  · decide +kernel
  · decide +kernel

/-- Not every shown path leads back: from another working directory than the root, the name of a
file in the root leads nowhere. -/
theorem not_forall_shownPath_leads :
    ¬ ∀ (d : Disk) (w : Workspace) (t : Tab) (p : Disk.Path), Arises w → d.Situated → t ∈ w.tabs →
      t.path = some p →
        ∃ u, w.findByPath d (.ofString (w.shownPath t)) = .ok (some u) ∧ u.path = some p := by
  intro always
  let d : Disk := ⟨[], [], ⟨1, ["home"]⟩, ⟨1, []⟩, [], []⟩
  let t : Tab := ⟨"x", "A", some ⟨1, ["docs", "a.md"]⟩, "markdown", [], 1, none⟩
  let w : Workspace := ⟨⟨1, ["docs"]⟩, [t], ["x"], 1⟩
  have situated : d.Situated :=
    ⟨⟨rfl, by decide⟩, Disk.forall_mem_homes.mpr ⟨⟨by decide, by decide⟩, List.forall_mem_nil _⟩⟩
  obtain ⟨u, found, _⟩ := always d w t _ arises_with_one_file situated (by decide) rfl
  have nothing : w.findByPath d (.ofString (w.shownPath t)) = .ok none := by decide +kernel
  rw [nothing] at found
  cases found

end Workspace

end OpenDocs.Tabs
