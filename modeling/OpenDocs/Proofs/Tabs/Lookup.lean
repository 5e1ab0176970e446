import OpenDocs.Proofs.Disk.Torn
import OpenDocs.Proofs.Tabs.Opening
import OpenDocs.Tabs.Editor

/-!
# What an identifier leads to

An identifier names a tab by its title, by its id or by the path of its file. Looking it up gives
such a tab, or tells that there is none; only a path with a NUL, or with a lone surrogate that
stands for no byte, makes it fail in another way.
-/

namespace OpenDocs.Tabs

namespace Workspace

/-- The ways in which an identifier can name a tab. -/
inductive Names (d : Disk) (w : Workspace) (identifier : List Text.Point) (t : Tab) : Prop
  | title : t ∈ w.tabs → Text.points t.title = identifier → Names d w identifier t
  | id : t ∈ w.table → Text.points t.id = identifier → Names d w identifier t
  | path {path : Disk.Path} : t ∈ w.tabs → d.normalizePoints identifier = .ok (some path) →
      t.path = some path → Names d w identifier t

/-- Nothing but an unknown home is in the way of an identifier that is looked up as a path. -/
def Fair (d : Disk) (identifier : List Text.Point) : Prop :=
  ∀ fault, d.normalizePoints identifier = .error fault → fault = .noHome

variable {d : Disk} {w : Workspace} {identifier : List Text.Point} {t : Tab} {f : Failure}

theorem Names.mem_table (named : Names d w identifier t) : t ∈ w.table := by
  cases named with
  | title listed _ => exact mem_table_of_mem_tabs listed
  | id held _ => exact held
  | path listed _ _ => exact mem_table_of_mem_tabs listed

/-- A tab whose title or id an identifier is. -/
theorem names_of_called {name : String} (whole : Text.whole? identifier = some name)
    (found : (w.findByTitle? name).or (w.byId? name) = some t) : Names d w identifier t := by
  obtain rfl := Text.whole?_eq_some_iff.mp whole
  rcases Option.or_eq_some_iff.mp found with titled | ⟨_, held⟩
  · have same : t.title = name := by simpa using List.find?_some titled
    exact .title (List.mem_of_find?_eq_some titled) (congrArg Text.points same)
  · obtain ⟨inside, same⟩ := mem_table_of_byId? held
    exact .id inside (congrArg Text.points same)

theorem names_of_seek (sought : w.seek d identifier = .ok t) : Names d w identifier t := by
  rw [seek] at sought
  split at sought
  · next u found =>
    obtain rfl := Except.ok.inj sought
    obtain ⟨name, whole, called⟩ := Option.bind_eq_some_iff.mp found
    exact names_of_called whole called
  · split at sought
    · next path? normal =>
      split at sought
      · next u found =>
        obtain rfl := Except.ok.inj sought
        obtain ⟨path, rfl, first⟩ := Option.bind_eq_some_iff.mp found
        exact .path (List.mem_of_find?_eq_some first) normal (by simpa using List.find?_some first)
      · cases sought
    · cases sought
    · cases sought

/-- An identifier that is no title, no id and no path of a tab names none. -/
theorem unnamed_of_absent
    (uncalled : (Text.whole? identifier).bind
      (fun name => (w.findByTitle? name).or (w.byId? name)) = none)
    (noPath : ∀ path, d.normalizePoints identifier = .ok (some path) →
      w.tabs.find? (·.path == some path) = none) : ∀ t, ¬ Names d w identifier t := by
  intro t named
  cases named with
  | title listed same =>
    rw [← same, Text.whole?_points] at uncalled
    have untitled := (Option.or_eq_none_iff.mp uncalled).1
    simpa using List.find?_eq_none.mp untitled t listed
  | id held same =>
    rw [← same, Text.whole?_points] at uncalled
    have unknown := (Option.or_eq_none_iff.mp uncalled).2
    simpa using List.find?_eq_none.mp unknown t held
  | path listed normal same =>
    have other := List.find?_eq_none.mp (noPath _ normal) t listed
    exact other (by simp [same])

/-- Where looking an identifier up fails, it names no tab; and it is told so, unless its path fails
for another reason than that its home is unknown. -/
theorem unnamed_of_seek_error (refused : w.seek d identifier = .error f) :
    (∀ t, ¬ Names d w identifier t) ∧
      (Fair d identifier ∧ f = .noSuchTab identifier ∨
        ∃ fault, d.normalizePoints identifier = .error fault ∧ fault ≠ .noHome ∧
          f = .fault fault) := by
  rw [seek] at refused
  split at refused
  · cases refused
  · next uncalled =>
    split at refused
    · next path? normal =>
      split at refused
      · cases refused
      · next absent =>
        refine ⟨unnamed_of_absent uncalled fun path normal' => ?_, .inl ⟨fun fault failed => ?_,
          (Except.error.inj refused).symm⟩⟩
        · obtain rfl := Except.ok.inj (normal.symm.trans normal')
          exact absent
        · cases normal.symm.trans failed
    · next normal =>
      refine ⟨unnamed_of_absent uncalled fun path normal' => ?_, .inl ⟨fun fault failed => ?_,
        (Except.error.inj refused).symm⟩⟩
      · cases normal.symm.trans normal'
      · exact (Except.error.inj (normal.symm.trans failed)).symm
    · next fault other normal =>
      refine ⟨unnamed_of_absent uncalled fun path normal' => ?_, .inr ⟨fault, normal, ?_,
        (Except.error.inj refused).symm⟩⟩
      · cases normal.symm.trans normal'
      · rintro rfl
        exact other rfl

theorem seek_of_unnamed (unnamed : ∀ t, ¬ Names d w identifier t)
    (fair : Fair d identifier) :
    w.seek d identifier = .error (.noSuchTab identifier) := by
  cases sought : w.seek d identifier with
  | ok t => exact absurd (names_of_seek sought) (unnamed t)
  | error f =>
    rcases (unnamed_of_seek_error sought).2 with ⟨_, rfl⟩ | ⟨fault, normal, other, _⟩
    · rfl
    · exact absurd (fair fault normal) other

theorem noSuchTab_points (name : String) :
    Failure.noSuchTab (Text.points name) = .problem (.noSuchTab name none) := by
  rw [Failure.noSuchTab, Text.whole?_points]

/-- An identifier that is not torn leads where it always does. -/
@[simp] theorem seek_points (name : String) : w.seek d (Text.points name) = w.get d name := by
  rw [seek, get, Text.whole?_points, Option.bind_some]
  cases (w.findByTitle? name).or (w.byId? name) with
  | some tab => rfl
  | none =>
    simp only [findByPath, Disk.normalizePoints_points, noSuchTab_points]
    cases d.normalize (.ofString name) with
    | ok path =>
      simp only [Except.map, Option.bind_some]
      cases w.tabs.find? (·.path == some path) <;> rfl
    | error fault => cases fault <;> rfl

/-! ### Paths -/

theorem findByPath_none {p : Disk.Path} (sought : w.findByPath d p = .ok none) :
    d.normalize p ≠ .error .nulInPath ∧
      ∀ path, d.normalize p = .ok path → ∀ t ∈ w.tabs, t.path ≠ some path := by
  refine ⟨fun normal => ?_, fun path normal t listed => ?_⟩
  · rw [findByPath, normal] at sought
    cases sought
  · rw [findByPath, normal] at sought
    simpa using List.find?_eq_none.mp (Except.ok.inj sought) t listed

theorem findByPath_error {p : Disk.Path} {fault : Disk.Fault}
    (refused : w.findByPath d p = .error fault) :
    fault = .nulInPath ∧ d.normalize p = .error .nulInPath := by
  rw [findByPath] at refused
  split at refused
  · cases refused
  · cases refused
  · next g other normal =>
    obtain rfl := Except.error.inj refused
    rcases Disk.normalize_error normal with rfl | ⟨rfl, _⟩
    · exact absurd rfl other
    · exact ⟨rfl, normal⟩

end Workspace

namespace Editor

variable {d : Disk} {e : Editor} {identifier : String} {snapshot : Snapshot}

theorem textOf_buffer (buffer : e.source = .buffer) (t : Tab) : e.textOf d t = .ok t.text := by
  rw [textOf, buffer]

/-- An identifier that is not torn leads to the document that it always does. -/
@[simp] theorem document_points (name : String) :
    e.document d (Text.points name) = e.resolve d name := by
  rw [document, Workspace.seek_points, resolve]

theorem document_eq_ok_iff {points : List Text.Point} : e.document d points = .ok snapshot ↔
    ∃ t text, e.workspace.seek d points = .ok t ∧ e.textOf d t = .ok text ∧
      snapshot = t.snapshot t.title text := by
  simp only [document, bind_eq_ok_iff]
  constructor
  · rintro ⟨t, got, text, read, made⟩
    exact ⟨t, text, got, read, (Except.ok.inj made).symm⟩
  · rintro ⟨t, text, got, read, rfl⟩
    exact ⟨t, got, text, read, rfl⟩

theorem resolve_eq_ok_iff : e.resolve d identifier = .ok snapshot ↔
    ∃ t text, e.workspace.get d identifier = .ok t ∧ e.textOf d t = .ok text ∧
      snapshot = t.snapshot t.title text := by
  rw [← document_points, document_eq_ok_iff]
  simp only [Workspace.seek_points]

end Editor

end OpenDocs.Tabs
