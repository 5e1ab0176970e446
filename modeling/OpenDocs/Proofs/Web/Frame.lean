import OpenDocs.Proofs.Tabs.Buffers
import OpenDocs.Proofs.Web.Proposing

/-!
# Which files requests change

Requests write no files but those of proposals, which are called after the titles of open tabs. So
the files of the open tabs keep their bytes as long as none of them is such a file; a directory for
proposals that is the directory of an open file makes the proposal replace it.
-/

namespace OpenDocs

namespace Proposals

theorem target_congr {ps ps' : Proposals} (same : ps'.directory = ps.directory) (label : String) :
    ps'.target label = ps.target label := by
  simp [target, same]

/-- Whatever the listeners say, no file is written but that of the proposal. -/
theorem present_frame (d : Disk) (ps : Proposals) (current proposed : List Char) (label : String) :
    (ps.present d current proposed label).2.1.directory = ps.directory ∧
    d.SameOrigins (ps.present d current proposed label).2.2 ∧
    (d.KeepsFiles (ps.present d current proposed label).2.2 ∨
      ∃ at_ bytes, (ps.present d current proposed label).2.2.locate (ps.target label) = .ok at_ ∧
        Disk.Replaces at_ bytes d (ps.present d current proposed label).2.2) := by
  have origins : d.SameOrigins
      ((Disk.writeText (ps.target label) proposed "utf-8").run.run d).2 :=
    Disk.writeCoded_origins d _ _
  rw [← disk_present d ps current] at origins
  have outcome := presents d ps current proposed label
  generalize ps.present d current proposed label = result at outcome origins ⊢
  cases outcome with
  | unwritten kept => exact ⟨rfl, origins, .inl kept⟩
  | written located replaced => exact ⟨rfl, origins, .inr ⟨_, _, located, replaced⟩⟩

end Proposals

namespace Tabs

variable {d d' : Disk} {w : Workspace} {e : Editor} {identifier : String} {snapshot : Snapshot}

theorem Workspace.get_congr (same : d.SameOrigins d') (w : Workspace) (identifier : String) :
    w.get d' identifier = w.get d identifier := by
  simp only [get, findByPath, same.normalize]

/-- A text is found again while the tab's file can be read as before. -/
theorem Editor.textOf_congr {e' : Editor} {t : Tab} {text : List Char}
    (source : e'.source = e.source)
    (again : ∀ p bytes, t.path = some p → d.readBytes p = .ok bytes → d'.readBytes p = .ok bytes)
    (read : e.textOf d t = .ok text) : e'.textOf d' t = .ok text := by
  unfold textOf at read ⊢
  rw [source]
  split at read
  · exact read
  · exact read
  · next p from_disk has =>
    split at read
    · next found =>
      obtain ⟨bytes, raw, decoded⟩ := Disk.readText_eq_ok_iff.mp found
      have reread := Disk.readText_eq_ok_iff.mpr ⟨bytes, again p bytes has raw, decoded⟩
      simp only [reread]
      exact read
    · cases read
    · cases read

end Tabs

namespace Web

open Tabs

/-- The place that a proposal for a tab is written to. -/
def Session.proposalPlace (s : Session) (t : Tab) : List String :=
  s.disk.placeOf (s.editor.proposals.target t.title)

/-- The second session has the same tabs, and the same files but for proposals. -/
structure Session.Spares (s s' : Session) : Prop where
  workspace : s'.editor.workspace = s.editor.workspace
  source : s'.editor.source = s.editor.source
  directory : s'.editor.proposals.directory = s.editor.proposals.directory
  origins : s.disk.SameOrigins s'.disk
  directories : ∀ at_, s.disk.lookup at_ = some .directory → s'.disk.lookup at_ = some .directory
  files : ∀ at_, (∀ t ∈ s.editor.workspace.table, s.proposalPlace t ≠ at_) →
    ∀ bytes, s'.disk.lookup at_ = some (.file bytes) ↔ s.disk.lookup at_ = some (.file bytes)
  shut : ∀ at_, (∀ t ∈ s.editor.workspace.table, s.proposalPlace t ≠ at_) →
    ∀ bytes, s.disk.lookup at_ = some (.file bytes) →
      (at_ ∈ s'.disk.sealed ↔ at_ ∈ s.disk.sealed)

namespace Session

variable {s s' s'' : Session}

namespace Spares

theorem refl (s : Session) : s.Spares s :=
  ⟨rfl, rfl, rfl, .refl s.disk, fun _ held => held, fun _ _ _ => Iff.rfl,
    fun _ _ _ _ => Iff.rfl⟩

theorem proposalPlace_eq (spares : s.Spares s') (t : Tab) :
    s'.proposalPlace t = s.proposalPlace t := by
  unfold proposalPlace
  rw [Proposals.target_congr spares.directory, spares.origins.placeOf]

theorem apart_later (spares : s.Spares s') {at_ : List String}
    (apart : ∀ t ∈ s.editor.workspace.table, s.proposalPlace t ≠ at_) :
    ∀ t ∈ s'.editor.workspace.table, s'.proposalPlace t ≠ at_ := by
  intro t held
  rw [spares.workspace] at held
  rw [spares.proposalPlace_eq]
  exact apart t held

theorem trans (first : s.Spares s') (second : s'.Spares s'') : s.Spares s'' where
  workspace := second.workspace.trans first.workspace
  source := second.source.trans first.source
  directory := second.directory.trans first.directory
  origins := first.origins.trans second.origins
  directories := fun at_ held => second.directories at_ (first.directories at_ held)
  files := fun at_ apart bytes =>
    (second.files at_ (first.apart_later apart) bytes).trans (first.files at_ apart bytes)
  shut := fun at_ apart bytes held =>
    (second.shut at_ (first.apart_later apart) bytes
      ((first.files at_ apart bytes).mpr held)).trans (first.shut at_ apart bytes held)

end Spares

/-- No tab's file is where a proposal for a tab is written to. -/
def Apart (s : Session) : Prop :=
  ∀ t ∈ s.editor.workspace.table, ∀ u ∈ s.editor.workspace.table, ∀ p, u.path = some p →
    s.proposalPlace t ≠ s.disk.placeOf p

theorem Spares.apart (spares : s.Spares s') (apart : s.Apart) : s'.Apart := by
  unfold Apart
  rw [spares.workspace]
  intro t listed u held p has
  rw [spares.proposalPlace_eq, spares.origins.placeOf]
  exact apart t listed u held p has

theorem Spares.readBytes (spares : s.Spares s') (apart : s.Apart) {t : Tab}
    (held : t ∈ s.editor.workspace.table) {p : Disk.Path} (has : t.path = some p)
    {bytes : List UInt8} (read : s.disk.readBytes p = .ok bytes) :
    s'.disk.readBytes p = .ok bytes := by
  obtain ⟨at_, located, found, open_⟩ := Disk.readBytes_eq_ok_iff.mp read
  have place : at_ = s.disk.placeOf p := Disk.locate_eq_placeOf located
  have free : ∀ u ∈ s.editor.workspace.table, s.proposalPlace u ≠ at_ := by
    intro u listed
    rw [place]
    exact apart u listed t held p has
  apply Disk.readBytes_eq_ok_iff.mpr
  refine ⟨at_, ?_, (spares.files at_ free bytes).mpr found,
    mt (spares.shut at_ free bytes found).mp open_⟩
  exact Disk.locate_of_directories spares.directories spares.origins.working located

/-- The answer to a request for a document's text stays. -/
theorem Spares.resolve (spares : s.Spares s') (apart : s.Apart) {identifier : String}
    {snapshot : Snapshot} (found : s.editor.resolve s.disk identifier = .ok snapshot) :
    s'.editor.resolve s'.disk identifier = .ok snapshot := by
  obtain ⟨t, text, got, read, rfl⟩ := Editor.resolve_eq_ok_iff.mp found
  have held := (Workspace.names_of_seek ((Workspace.seek_points identifier).trans got)).mem_table
  apply Editor.resolve_eq_ok_iff.mpr
  refine ⟨t, text, ?_, ?_, rfl⟩
  · rw [spares.workspace, Workspace.get_congr spares.origins]
    exact got
  · apply Editor.textOf_congr spares.source _ read
    intro p bytes has raw
    exact spares.readBytes apart held has raw

end Session

/-! ### One request -/

variable {s : Session} {config : Config} {r : Request}

theorem proposeEdit_spares (s : Session) (e : EditRequest) :
    s.Spares (proposeEdit editorBackend s e).2 := by
  cases found : s.editor.document s.disk e.tab with
  | error f =>
    rw [proposeEdit_of_error found]
    exact .refl s
  | ok snapshot =>
    rw [proposeEdit_of_document found]
    cases edited : e.edited snapshot.text with
    | error flaw => exact .refl s
    | ok proposed =>
      obtain ⟨t, text, got, _, rfl⟩ := Editor.document_eq_ok_iff.mp found
      have held := (Workspace.names_of_seek got).mem_table
      cases whole : Text.chars? e.text with
      | none =>
        obtain ⟨fault, d', run, kept, origins⟩ :=
          s.editor.proposals.presentTorn_outcome s.disk t.title
        simp only [editorBackend, Tab.snapshot, Option.map_none, run]
        exact ⟨rfl, rfl, rfl, origins, kept.directories, fun at_ _ bytes => kept.files at_ bytes,
          fun at_ _ bytes there => kept.shut at_ bytes there⟩
      | some cs =>
      obtain ⟨directory, origins, changed⟩ :=
        s.editor.proposals.present_frame s.disk (t.snapshot t.title text).text proposed t.title
      have different {other at_ : List String} {d' : Disk}
          (apart : ∀ u ∈ s.editor.workspace.table, s.proposalPlace u ≠ other)
          (same : s.disk.SameOrigins d')
          (located : d'.locate (s.editor.proposals.target t.title) = .ok at_) : other ≠ at_ := by
        have place := Disk.locate_eq_placeOf located
        rw [same.placeOf] at place
        rintro rfl
        exact apart t held place.symm
      refine ⟨rfl, rfl, directory, origins, ?_, ?_, ?_⟩
      · rcases changed with kept | ⟨at_, bytes, _, replaced⟩
        · exact kept.directories
        · exact replaced.directories
      · intro other apart content
        rcases changed with kept | ⟨at_, bytes, located, replaced⟩
        · exact kept.files other content
        · exact replaced.others other (different apart origins located) content
      · intro other apart content there
        rcases changed with kept | ⟨at_, bytes, located, replaced⟩
        · exact kept.shut other content there
        · exact replaced.shut other (different apart origins located) content there

theorem serve_spares (config : Config) (s : Session) (r : Request) :
    s.Spares (serve editorBackend config s r).2 := by
  cases direct : config.framework.preflight? r with
  | some response =>
    have same : (serve editorBackend config s r).2 = s := by simp only [serve, direct]
    rw [same]
    exact .refl s
  | none =>
    rw [serve_state direct]
    rcases answer_cases config s r with same | ⟨e, note, apology, same⟩
    · rw [same]
      exact .refl s
    · rw [same]
      exact proposeEdit_spares s e

/-- Any number of requests. -/
theorem Session.after_spares (config : Config) (s : Session) (requests : List Request) :
    s.Spares (s.after config requests) := by
  induction requests generalizing s with
  | nil => exact .refl s
  | cons r requests ih => exact (serve_spares config s r).trans (ih _)

/-! ### The text of a document -/

/-- A request for the text of the document with a name. -/
structure Fetches (name : String) (r : Request) : Prop where
  filled : name ≠ ""
  single : '/' ∉ name.toList
  method : r.method = "GET"
  path : r.path = "/tabs/" ++ name

theorem Fetches.answer_eq {name : String} (fetches : Fetches name r) (config : Config)
    (s : Session) :
    (answer editorBackend config s r).1 =
      conclude s!"Failed to read tab {name}" "Failed to read file"
        ((s.editor.resolve s.disk name).map fun d => ⟨200, [], .text d.text⟩) := by
  rw [answer, fetches.method, fetches.path,
    config.framework.destination_document fetches.filled fetches.single]
  simp only [answerRoute, answerDocument, editorBackend, Editor.document_points]

theorem Fetches.direct {name : String} (fetches : Fetches name r) :
    config.framework.preflight? r = none := by
  apply config.framework.preflight?_of_method
  rw [fetches.method]
  decide

/-- What is answered depends on the document alone. -/
theorem Fetches.serve_congr {name : String} (fetches : Fetches name r) {s s' : Session}
    (same : s'.editor.resolve s'.disk name = s.editor.resolve s.disk name) :
    (serve editorBackend config s' r).1 = (serve editorBackend config s r).1 := by
  have answers : (answer editorBackend config s' r).1 = (answer editorBackend config s r).1 := by
    rw [fetches.answer_eq, fetches.answer_eq, same]
  simp only [serve, fetches.direct]
  generalize answer editorBackend config s' r = first at answers ⊢
  generalize answer editorBackend config s r = second at answers ⊢
  obtain ⟨⟨result, log⟩, after⟩ := first
  obtain ⟨told, after'⟩ := second
  obtain rfl : (result, log) = told := answers
  obtain ⟨outcome, log⟩ := sent (result, log)
  cases outcome <;> rfl

theorem Fetches.exists_snapshot {name : String} (fetches : Fetches name r)
    (accepted : (serve editorBackend config s r).1.response.status = 200) :
    ∃ snapshot, s.editor.resolve s.disk name = .ok snapshot := by
  cases found : s.editor.resolve s.disk name with
  | ok snapshot => exact ⟨snapshot, rfl⟩
  | error failure =>
    have answered := fetches.answer_eq config s
    rw [found] at answered
    exact absurd accepted (serve_of_conclude_error fetches.direct (Prod.ext answered rfl))

/-! ### Open files -/

/-- Whatever was asked before, a request changes no open tab and no file of one, and what is
answered for a document's text stays the same, from either source, if no tab's file is where a
proposal for a tab is written to. -/
theorem previews_spare_files (config : Config) (s : Session) (apart : s.Apart)
    (requests : List Request) (r : Request) :
    let here := s.after config requests
    let later := (serve editorBackend config here r).2
    later.editor.workspace = s.editor.workspace ∧
    (∀ t ∈ s.editor.workspace.table, ∀ p, t.path = some p → ∀ bytes,
      (later.disk.lookup (s.disk.placeOf p) = some (.file bytes) ↔
        here.disk.lookup (s.disk.placeOf p) = some (.file bytes)) ∧
      (here.disk.readBytes p = .ok bytes → later.disk.readBytes p = .ok bytes)) ∧
    ∀ name q, Fetches name q → (serve editorBackend config s q).1.response.status = 200 →
      (serve editorBackend config here q).1 = (serve editorBackend config s q).1 := by
  intro here later
  have before : s.Spares here := s.after_spares config requests
  have behind : here.Spares later := serve_spares config here r
  have apart' := before.apart apart
  refine ⟨(before.trans behind).workspace, ?_, ?_⟩
  · intro t held p has bytes
    have held' : t ∈ here.editor.workspace.table := by rwa [before.workspace]
    refine ⟨behind.files _ ?_ bytes, behind.readBytes apart' held' has⟩
    intro u listed
    rw [← before.origins.placeOf]
    exact apart' u listed t held' p has
  · intro name q fetches accepted
    obtain ⟨snapshot, found⟩ := fetches.exists_snapshot accepted
    apply fetches.serve_congr
    rw [found, before.resolve apart found]

/-- Twice the same edit of an open file, with proposals in a new directory beside the file. -/
theorem previews_spare_files_of_edit_and_again :
    let t : Tab := ⟨"t", "a.md", some ⟨1, ["r", "a.md"]⟩, "markdown", ['a', 'b'], 1, none⟩
    let d : Disk := ⟨[(["r"], .directory), (["r", "a.md"], .file [97, 98])], [], ⟨1, []⟩, ⟨1, []⟩,
      [], []⟩
    let s : Session := ⟨d, ⟨⟨1, []⟩, [t], ["t"], 1⟩, .disk, ⟨⟨1, ["r", "p"]⟩, 3, [], none, []⟩⟩
    let config : Config := ⟨.usual ⟨[], [], []⟩, none, none⟩
    let body := "\x7b\"tabName\": \"a.md\", \"startLine\": 0, \"startCharacter\": 1, " ++
      "\"endLine\": 0, \"endCharacter\": 2\x7d"
    let edit : Request := ⟨"POST", "/tabs/modify", "", [], Encoding.Utf8.encode body.toList, none⟩
    let fetch : Request := ⟨"GET", "/tabs/a.md", "", [], [], none⟩
    (s.after config [edit]).disk.lookup ["r", "p", "a.md"] = some (.file [97]) ∧
      (serve editorBackend config (s.after config [edit]) edit).2.disk.lookup ["r", "a.md"] =
        some (.file [97, 98]) ∧
      (serve editorBackend config (s.after config [edit]) fetch).1.response.status = 200 := by
  intro t d s config body edit fetch
  have apart : s.Apart := by
    intro u listed v held p has
    obtain rfl := List.mem_singleton.mp listed
    obtain rfl := List.mem_singleton.mp held
    obtain rfl := Option.some.inj has
    decide
  have spared := previews_spare_files config s apart [edit] edit
  have made : (s.after config [edit]).disk.lookup ["r", "p", "a.md"] = some (.file [97]) ∧
      (s.after config [edit]).disk.lookup ["r", "a.md"] = some (.file [97, 98]) := by
    decide +kernel
  have accepted : (serve editorBackend config s fetch).1.response.status = 200 := by decide +kernel
  have fetches : Fetches "a.md" fetch := ⟨by decide, by decide, rfl, by decide⟩
  -- The first edit is evaluated once; what follows is about whatever came of it.
  simp only at spared
  generalize s.after config [edit] = here at made spared ⊢
  obtain ⟨_, files, texts⟩ := spared
  have again := (files t (List.mem_singleton_self t) _ rfl [97, 98]).1
  have same := texts "a.md" fetch fetches accepted
  refine ⟨made.1, again.mpr made.2, ?_⟩
  rw [same]
  exact accepted

/-- With the directory of an open file for proposals, the file is replaced by the proposal. -/
theorem previews_replace_file_beside :
    let t : Tab := ⟨"t", "a.md", some ⟨1, ["r", "a.md"]⟩, "markdown", ['a', 'b'], 1, none⟩
    let d : Disk := ⟨[(["r"], .directory), (["r", "a.md"], .file [97, 98])], [], ⟨1, []⟩, ⟨1, []⟩,
      [], []⟩
    let s : Session := ⟨d, ⟨⟨1, []⟩, [t], ["t"], 1⟩, .disk, ⟨⟨1, ["r"]⟩, 3, [], none, []⟩⟩
    let config : Config := ⟨.usual ⟨[], [], []⟩, none, none⟩
    let body := "\x7b\"tabName\": \"a.md\", \"startLine\": 0, \"startCharacter\": 1, " ++
      "\"endLine\": 0, \"endCharacter\": 2\x7d"
    let edit : Request := ⟨"POST", "/tabs/modify", "", [], Encoding.Utf8.encode body.toList, none⟩
    let after := (serve editorBackend config s edit).2
    s.disk.lookup ["r", "a.md"] = some (.file [97, 98]) ∧
      after.disk.lookup ["r", "a.md"] = some (.file [97]) := by
  decide +kernel

end Web

end OpenDocs
