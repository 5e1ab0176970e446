import OpenDocs.Proofs.Web.Proposing

/-!
# Requests for unknown tabs

An identifier that names no tab is told to the client as such on every route that takes one, in
whatever way it is spelled. The exception is a NUL, on which the search for a path fails.
-/

namespace OpenDocs.Web

open Tabs Workspace

/-- A request that is in order and is for the tab with that identifier. A torn one can only be in a
body. -/
inductive Asks : List Text.Point → Request → Prop
  | text {name : String} {r : Request} : name ≠ "" → '/' ∉ name.toList → r.method = "GET" →
      r.path = "/tabs/" ++ name → Asks (Text.points name) r
  | symbols {name : String} {r : Request} {json : Bool} : name ≠ "" → '/' ∉ name.toList →
      r.method = "GET" → r.path = "/tabs/" ++ name ++ "/symbols" →
      parameter? r.query "format" ∈ formats json → Asks (Text.points name) r
  | edit {r : Request} {j : Json} {e : EditRequest} : r.method = "POST" →
      r.path = "/tabs/modify" → r.json = .ok j → EditRequest.ofJson j = .ok e → Asks e.tab r

section

variable {State : Type} {b : Backend State} {config : Config} {s : State} {r : Request}
  {name : String} {f : Failure}

theorem answerDocument_of_error (absent : b.document s (Text.points name) = .error f) :
    answerDocument b s name =
      conclude s!"Failed to read tab {name}" "Failed to read file" (.error f) := by
  rw [answerDocument, absent]
  rfl

theorem answerSymbols_of_error {json : Bool} (absent : b.symbols s name = .error f)
    (asked : parameter? r.query "format" ∈ formats json) :
    answerSymbols b config s r name =
      conclude s!"Failed to resolve symbols for {name}" "Failed to get symbols" (.error f) := by
  rw [answerSymbols, config.framework.format_of_query asked, absent]
  rfl

end

variable {s : Session} {config : Config} {r : Request} {identifier : List Text.Point} {f : Failure}

theorem symbols_of_error {name : String} (absent : s.editor.resolve s.disk name = .error f) :
    editorBackend.symbols s name = .error f := by
  simp only [editorBackend, Editor.symbols, absent]
  rfl

theorem Asks.direct (asks : Asks identifier r) : config.framework.preflight? r = none := by
  apply config.framework.preflight?_of_method
  cases asks with
  | text _ _ method _ => rw [method]; decide
  | symbols _ _ method _ _ => rw [method]; decide
  | edit method _ _ _ => rw [method]; decide

/-- On every route it is concluded from a document that is not found. -/
theorem Asks.answer_of_error (asks : Asks identifier r)
    (absent : s.editor.document s.disk identifier = .error f) : ∃ note apology,
      answer editorBackend config s r = (conclude note apology (.error f), s) := by
  cases asks with
  | text filled single method path =>
    rw [answer, method, path, config.framework.destination_document filled single]
    exact ⟨_, _, congrArg (·, s) (answerDocument_of_error absent)⟩
  | symbols filled single method path format =>
    rw [Editor.document_points] at absent
    have noSymbols := symbols_of_error absent
    rw [answer, method, path, config.framework.destination_symbols filled single]
    exact ⟨_, _, congrArg (·, s) (answerSymbols_of_error noSymbols format)⟩
  | edit method path read asked =>
    obtain ⟨note, apology, concluded⟩ := concludes_of_posted method path
      (config.framework.edit_of_body read asked)
    rw [proposeEdit_of_error absent] at concluded
    exact ⟨note, apology, concluded⟩

/-- An identifier that names no tab and cannot be looked up as a path. -/
theorem document_fails (unnamed : ∀ t, ¬ Names s.disk s.editor.workspace identifier t)
    (unfair : ¬ Fair s.disk identifier) :
    ∃ fault, s.editor.document s.disk identifier = .error (.fault fault) := by
  cases sought : s.editor.workspace.seek s.disk identifier with
  | ok t => exact absurd (names_of_seek sought) (unnamed t)
  | error f =>
    rcases (unnamed_of_seek_error sought).2 with ⟨fair, _⟩ | ⟨fault, _, _, rfl⟩
    · exact absurd fair unfair
    · refine ⟨fault, ?_⟩
      rw [Editor.document, sought]
      rfl

/-- An identifier leads to a tab that it names, or is told to name none; only one that names none
and whose path has no normal form, for a NUL or a lost surrogate, ends in another failure. If it
names none, every route that takes it leaves all as it is, and answers that there is no such tab
unless it ends so or is torn. -/
theorem unknown_outcome (s : Session) (identifier : List Text.Point) :
    let w := s.editor.workspace
    ((∃ t, w.seek s.disk identifier = .ok t ∧ Names s.disk w identifier t ∧ t ∈ w.table) ∨
      (∀ t, ¬ Names s.disk w identifier t) ∧
        (Fair s.disk identifier ∧ w.seek s.disk identifier = .error (.noSuchTab identifier) ∨
          ∃ fault, s.disk.normalizePoints identifier = .error fault ∧ fault ≠ .noHome ∧
            w.seek s.disk identifier = .error (.fault fault))) ∧
    (∀ fault, s.disk.normalizePoints identifier = .error fault →
      s.disk.Refuses identifier fault) ∧
    ((∀ t, ¬ Names s.disk w identifier t) →
      (Fair s.disk identifier →
        s.editor.document s.disk identifier = .error (.noSuchTab identifier)) ∧
      ∀ config r, Asks identifier r →
        let (answer, after) := serve editorBackend config s r
        after = s ∧
        (∀ name, identifier = Text.points name → Fair s.disk identifier →
          answer.response.status = 404 ∧
            answer.response.body = .json (Problem.noSuchTab name none).report ∧
            answer.escaped = none) ∧
        (¬ ((∃ name, identifier = Text.points name) ∧ Fair s.disk identifier) →
          answer.response.status = 500)) := by
  intro w
  refine ⟨?_, fun fault refused => Disk.normalizePoints_error refused, fun unnamed => ?_⟩
  · cases sought : w.seek s.disk identifier with
    | ok t =>
      have named := names_of_seek sought
      exact .inl ⟨t, rfl, named, named.mem_table⟩
    | error f =>
      obtain ⟨unnamed, told⟩ := unnamed_of_seek_error sought
      rcases told with ⟨fair, rfl⟩ | ⟨fault, refused, other, rfl⟩
      · exact .inr ⟨unnamed, .inl ⟨fair, rfl⟩⟩
      · exact .inr ⟨unnamed, .inr ⟨fault, refused, other, rfl⟩⟩
  · have absent (fair : Fair s.disk identifier) :
        s.editor.document s.disk identifier = .error (.noSuchTab identifier) := by
      rw [Editor.document, seek_of_unnamed unnamed fair]
      rfl
    refine ⟨absent, fun config r asks => ?_⟩
    by_cases fair : Fair s.disk identifier
    · obtain ⟨note, apology, answered⟩ := asks.answer_of_error (absent fair)
      cases whole : Text.whole? identifier with
      | some name =>
        obtain rfl := Text.whole?_eq_some_iff.mp whole
        rw [noSuchTab_points] at answered
        rw [serve_of_answer asks.direct (sendable_json 404 (Problem.made_report _)) answered]
        refine ⟨rfl, fun name' same _ => ?_, fun unfair => absurd ⟨⟨name, rfl⟩, fair⟩ unfair⟩
        obtain rfl := Text.points_inj.mp same
        exact ⟨config.framework.confirm_status, config.framework.confirm_body, rfl⟩
      | none =>
        rw [Failure.noSuchTab, whole] at answered
        rw [serve_of_failure asks.direct answered]
        refine ⟨rfl, fun name same _ => ?_, fun _ => rfl⟩
        rw [same, Text.whole?_points] at whole
        cases whole
    · obtain ⟨fault, failed⟩ := document_fails unnamed fair
      obtain ⟨note, apology, answered⟩ := asks.answer_of_error failed
      rw [serve_of_answer asks.direct (sendable_text 500 apology) answered]
      exact ⟨rfl, fun _ _ fair' => absurd fair' fair, fun _ => config.framework.confirm_status⟩

/-- In a workspace with a tab, the symbols of one at a home that is not known. -/
theorem unknown_outcome_of_unknown_home :
    let w : Workspace := ⟨⟨1, []⟩, [⟨"t", "a.md", none, "markdown", ['a'], 1, none⟩], ["t"], 1⟩
    let s : Session := ⟨⟨[], [], ⟨1, ["h"]⟩, ⟨1, []⟩, [], []⟩, w, .disk, ⟨⟨1, []⟩, 3, [], none, []⟩⟩
    let r : Request := ⟨"GET", "/tabs/~b/symbols", "format=json", [], [], none⟩
    (∀ t, ¬ Names s.disk w (Text.points "~b") t) ∧
      ∀ config, (serve editorBackend config s r).1.response.status = 404 := by
  intro w s r
  have outcome := unknown_outcome s (Text.points "~b")
  have unknown : s.disk.normalizePoints (Text.points "~b") = .error .noHome := by decide +kernel
  have absent : w.seek s.disk (Text.points "~b") = .error (.problem (.noSuchTab "~b" none)) := by
    decide +kernel
  have unnamed : ∀ t, ¬ Names s.disk w (Text.points "~b") t := by
    rcases outcome.1 with ⟨t, got, _⟩ | ⟨unnamed, _⟩
    · cases absent.symm.trans got
    · exact unnamed
  have fair : Fair s.disk (Text.points "~b") :=
    fun fault failed => (Except.error.inj (unknown.symm.trans failed)).symm
  have format : parameter? r.query "format" ∈ formats true := by decide +kernel
  have asks : Asks (Text.points "~b") r := .symbols (by decide) (by decide) rfl rfl format
  exact ⟨unnamed, fun config => (((outcome.2.2 unnamed).2 config r asks).2.1 "~b" rfl fair).1⟩

/-- An identifier with a NUL names no tab, and neither does one with a lone surrogate, yet the answer
is that of a failure. -/
theorem unknown_with_nul_and_surrogate :
    let w : Workspace := ⟨⟨1, []⟩, [], [], 1⟩
    let s : Session := ⟨⟨[], [], ⟨1, []⟩, ⟨1, []⟩, [], []⟩, w, .buffer, ⟨⟨1, []⟩, 3, [], none, []⟩⟩
    let config : Config := ⟨.usual ⟨[], [], []⟩, none, none⟩
    let r : Request := ⟨"GET", "/tabs/a\x00b", "", [], [], none⟩
    let body := "\x7b\"tabName\": \"\\ud800\", \"startLine\": 0, \"startCharacter\": 0, " ++
      "\"endLine\": 0, \"endCharacter\": 0\x7d"
    let edit : Request := ⟨"POST", "/tabs/modify", "", [], Encoding.Utf8.encode body.toList, none⟩
    w.table = [] ∧ w.seek s.disk (Text.points "a\x00b") = .error (.fault .nulInPath) ∧
      (serve editorBackend config s r).1.response.status = 500 ∧
      w.seek s.disk [.surrogate 0] = .error (.fault (.encoding .surrogate)) ∧
      (serve editorBackend config s edit).1.response.status = 500 := by
  decide +kernel

end OpenDocs.Web
