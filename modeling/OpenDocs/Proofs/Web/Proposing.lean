import OpenDocs.Proofs.Edit.Outcome
import OpenDocs.Proofs.Proposals
import OpenDocs.Proofs.Raw.Spellings
import OpenDocs.Proofs.Tabs.Lookup
import OpenDocs.Proofs.Web.Routing

/-!
# Requests only propose

No request changes the open documents. A request for an edit leaves a proposal in a file of its own,
and where it is refused or fails, it leaves nothing.
-/

namespace OpenDocs

/-- A proposal that cannot be written leaves the files as they are. Otherwise the file that the
preview names holds it, and no other file has changed. -/
theorem Proposals.present_outcome (d : Disk) (ps : Proposals) (quiet : ps.listeners = [])
    (current proposed : List Char) (label : String) :
    (∃ f d', ps.present d current proposed label = (.error (.fault f), ps, d') ∧
      d.KeepsFiles d') ∨
    ∃ at_ d', ps.present d current proposed label =
        (.ok (ps.preview current proposed label),
          { ps with last := some (ps.preview current proposed label) }, d') ∧
      d'.locate (ps.target label) = .ok at_ ∧
      Disk.Replaces at_ (Encoding.Utf8.encode proposed) d d' := by
  have outcome := presents d ps current proposed label
  generalize ps.present d current proposed label = result at outcome ⊢
  cases outcome with
  | unwritten kept => exact .inl ⟨_, _, rfl, kept⟩
  | written located replaced =>
    refine .inr ⟨_, _, ?_, located, replaced⟩
    simp [publish, quiet, tell]

namespace Tabs.Editor

variable {d : Disk} {e : Editor} {identifier : List Text.Point} {snapshot : Snapshot}

/-- The text of the buffer is taken whatever the disk holds. -/
theorem document_buffer (buffer : e.source = .buffer)
    (found : e.document d identifier = .ok snapshot) :
    ∃ t, e.workspace.seek d identifier = .ok t ∧ snapshot = t.snapshot t.title t.text := by
  rw [document] at found
  obtain ⟨t, got, read⟩ := bind_eq_ok_iff.mp found
  rw [textOf_buffer buffer t] at read
  exact ⟨t, got, (Except.ok.inj read).symm⟩

end Tabs.Editor

namespace Web

open Tabs

/-! ### The edit of a request -/

namespace EditRequest

def start (e : EditRequest) : Position := ⟨e.startLine.toNat, e.startCharacter.toNat⟩

def stop (e : EditRequest) : Position := ⟨e.endLine.toNat, e.endCharacter.toNat⟩

/-- What the edit makes of a text. -/
def edited (e : EditRequest) (t : List Char) : Except RangeFlaw (List Char) := do
  (← e.toEdit).apply t

/-- The four numbers make a range, and its ends are in the text. -/
structure Fits (e : EditRequest) (t : List Char) : Prop where
  start_nonneg : 0 ≤ e.startLine ∧ 0 ≤ e.startCharacter
  stop_nonneg : 0 ≤ e.endLine ∧ 0 ≤ e.endCharacter
  ordered : e.start ≤ e.stop
  start_admitted : Text.Admits t e.start
  stop_admitted : Text.Admits t e.stop

variable {e : EditRequest} {t : List Char}

theorem toEdit_eq_ok_iff {edit : Edit} :
    e.toEdit = .ok edit ↔ (0 ≤ e.startLine ∧ 0 ≤ e.startCharacter) ∧
      (0 ≤ e.endLine ∧ 0 ≤ e.endCharacter) ∧ e.start ≤ e.stop ∧
      edit.range.start = e.start ∧ edit.range.stop = e.stop ∧
      edit.replacement = (Text.chars? e.text).getD [] := by
  rw [toEdit]
  simp only [bind_eq_ok_iff, Raw.positionOf_int_eq_ok_iff, Range.make_eq_ok_iff]
  constructor
  · rintro ⟨_, ⟨first, second, rfl⟩, _, ⟨third, fourth, rfl⟩, range, ⟨ordered, start, stop⟩, made⟩
    obtain rfl := Except.ok.inj made
    exact ⟨⟨first, second⟩, ⟨third, fourth⟩, ordered, start, stop, rfl⟩
  · rintro ⟨⟨first, second⟩, ⟨third, fourth⟩, ordered, start, stop, replacement⟩
    refine ⟨_, ⟨first, second, rfl⟩, _, ⟨third, fourth, rfl⟩, edit.range,
      ⟨ordered, start, stop⟩, ?_⟩
    rw [← replacement]
    rfl

theorem fits_iff : e.Fits t ↔ ∃ u, e.edited t = .ok u := by
  simp only [edited, bind_eq_ok_iff, toEdit_eq_ok_iff]
  constructor
  · intro fits
    obtain ⟨a, first⟩ := Text.admits_iff.mp fits.start_admitted
    obtain ⟨b, second⟩ := Text.admits_iff.mp fits.stop_admitted
    exact ⟨_, ⟨⟨e.start, e.stop, fits.ordered⟩, (Text.chars? e.text).getD []⟩,
      ⟨fits.start_nonneg, fits.stop_nonneg, fits.ordered, rfl, rfl, rfl⟩,
      Edit.apply_of_ok first second⟩
  · rintro ⟨u, edit, ⟨first, second, ordered, start, stop, _⟩, applied⟩
    obtain ⟨a, b, resolved, resolved', _⟩ := Edit.apply_eq_ok_iff.mp applied
    rw [start] at resolved
    rw [stop] at resolved'
    exact ⟨first, second, ordered, Text.admits_iff.mpr ⟨a, resolved⟩,
      Text.admits_iff.mpr ⟨b, resolved'⟩⟩

theorem ofRange_of_edited_error {flaw : RangeFlaw} (refused : e.edited t = .error flaw) :
    Failure.ofRange flaw =
      if flaw.numbers.any Json.isLong then .mishap .longNumber else .problem (.range flaw) := by
  rcases bind_eq_error_iff.mp refused with unread | ⟨edit, _, failed⟩
  · rcases bind_eq_error_iff.mp unread with starts | ⟨start, _, behind⟩
    · exact (Raw.refusal_of_positionOf_error starts).ofRange_eq
    rcases bind_eq_error_iff.mp behind with stops | ⟨stop, _, unmade⟩
    · exact (Raw.refusal_of_positionOf_error stops).ofRange_eq
    rcases bind_eq_error_iff.mp unmade with inverted | ⟨range, _, made⟩
    · rw [Range.make] at inverted
      split at inverted
      · cases inverted
        exact Raw.refusal_of_inverted.ofRange_eq
      · cases inverted
    · cases made
  · exact (Edit.ofRange_of_apply_error failed).1

end EditRequest

/-! ### What a proposal can end in -/

/-- Each point at which a proposal can stop, with what is told and what is left. -/
inductive Proposal (s : Session) (e : EditRequest) : Except Failure Preview → Session → Prop
  | unresolved {f : Failure} : s.editor.document s.disk e.tab = .error f → Proposal s e (.error f) s
  | refused {snapshot : Snapshot} {flaw : RangeFlaw} :
      s.editor.document s.disk e.tab = .ok snapshot → e.edited snapshot.text = .error flaw →
      Proposal s e (.error (.ofRange flaw)) s
  | unwritten {snapshot : Snapshot} {proposed : List Char} {fault : Disk.Fault} {d : Disk} :
      s.editor.document s.disk e.tab = .ok snapshot → e.edited snapshot.text = .ok proposed →
      s.disk.KeepsFiles d → Proposal s e (.error (.fault fault)) { s with disk := d }
  | written {snapshot : Snapshot} {proposed text : List Char} {p : Preview} {at_ : List String}
      {d : Disk} : s.editor.document s.disk e.tab = .ok snapshot →
      Text.chars? e.text = some text → e.edited snapshot.text = .ok proposed →
      p = s.editor.proposals.preview snapshot.text proposed snapshot.label →
      d.locate (s.editor.proposals.target snapshot.label) = .ok at_ →
      Disk.Replaces at_ (Encoding.Utf8.encode proposed) s.disk d →
      Proposal s e (.ok p) ⟨d, { s.editor with
        proposals := { s.editor.proposals with last := some p } }⟩

variable {s s' : Session} {e : EditRequest} {r : Request}

theorem proposeEdit_of_error {f : Failure}
    (absent : s.editor.document s.disk e.tab = .error f) :
    proposeEdit editorBackend s e = (.error f, s) := by
  simp only [proposeEdit, editorBackend, absent]
  rfl

theorem proposeEdit_of_document {snapshot : Snapshot}
    (found : s.editor.document s.disk e.tab = .ok snapshot) :
    proposeEdit editorBackend s e =
      match e.edited snapshot.text with
      | .error flaw => (.error (.ofRange flaw), s)
      | .ok proposed => editorBackend.present s snapshot.text
          ((Text.chars? e.text).map fun _ => proposed) snapshot.label := by
  simp only [proposeEdit, editorBackend, found, EditRequest.edited, bind, Except.bind]
  cases e.toEdit with
  | error flaw => rfl
  | ok edit =>
    simp only [Except.mapError]
    cases edit.apply snapshot.text <;> rfl

theorem proposal_of_proposeEdit (e : EditRequest) (quiet : s.editor.proposals.listeners = []) :
    Proposal s e (proposeEdit editorBackend s e).1 (proposeEdit editorBackend s e).2 := by
  cases found : s.editor.document s.disk e.tab with
  | error f =>
    rw [proposeEdit_of_error found]
    exact .unresolved found
  | ok snapshot =>
    rw [proposeEdit_of_document found]
    cases edited : e.edited snapshot.text with
    | error flaw => exact .refused found edited
    | ok proposed =>
      cases whole : Text.chars? e.text with
      | none =>
        obtain ⟨fault, d, run, kept, _⟩ :=
          s.editor.proposals.presentTorn_outcome s.disk snapshot.label
        simp only [editorBackend, Option.map_none, run]
        exact .unwritten found edited kept
      | some text =>
        rcases s.editor.proposals.present_outcome s.disk quiet snapshot.text proposed
            snapshot.label with ⟨f, d, run, kept⟩ | ⟨at_, d, run, located, replaced⟩
        · simp only [editorBackend, Option.map_some, Editor.present, run]
          exact .unwritten found edited kept
        · simp only [editorBackend, Option.map_some, Editor.present, run]
          exact .written found whole edited rfl located replaced

/-! ### What requests leave -/

/-- The open documents, and what proposals are made of and told to, are the same. -/
structure Session.Keeps (s s' : Session) : Prop where
  workspace : s'.editor.workspace = s.editor.workspace
  source : s'.editor.source = s.editor.source
  listeners : s'.editor.proposals.listeners = s.editor.proposals.listeners

/-- The files and the last proposal are the same. -/
structure Session.Untouched (s s' : Session) : Prop where
  files : s.disk.KeepsFiles s'.disk
  last : s'.editor.proposals.last = s.editor.proposals.last

theorem Session.Keeps.refl (s : Session) : s.Keeps s := ⟨rfl, rfl, rfl⟩

theorem Session.Keeps.trans {s'' : Session} (first : s.Keeps s') (second : s'.Keeps s'') :
    s.Keeps s'' :=
  ⟨second.workspace.trans first.workspace, second.source.trans first.source,
    second.listeners.trans first.listeners⟩

theorem Session.Untouched.refl (s : Session) : s.Untouched s := ⟨.refl s.disk, rfl⟩

theorem Proposal.keeps {result : Except Failure Preview} (proposal : Proposal s e result s') :
    s.Keeps s' := by
  cases proposal <;> exact ⟨rfl, rfl, rfl⟩

theorem Proposal.untouched {f : Failure} (proposal : Proposal s e (.error f) s') :
    s.Untouched s' := by
  cases proposal with
  | unresolved found => exact .refl s
  | refused found edited => exact .refl s
  | unwritten found edited kept => exact ⟨kept, rfl⟩

/-- The answer is what is said of a proposal, which leaves the session. -/
def Concludes (s : Session) (e : EditRequest) (answered : Outcome × Session) : Prop :=
  ∃ note apology, answered =
    (conclude note apology
      ((proposeEdit editorBackend s e).1.map fun p => .json 200 (editReport p)),
      (proposeEdit editorBackend s e).2)

theorem concludes_of_edit {config : Config} (asked : config.framework.edit r = .ok e) :
    Concludes s e (answerEdit editorBackend config s r) := by
  rw [answerEdit, asked]
  exact ⟨_, _, rfl⟩

theorem concludes_of_posted {config : Config} (posted : r.method = "POST")
    (addressed : r.path = "/tabs/modify") (asked : config.framework.edit r = .ok e) :
    Concludes s e (answer editorBackend config s r) := by
  rw [answer, posted, addressed, config.framework.destination_edit]
  exact concludes_of_edit asked

/-- A request leaves the session as it is or is one for an edit. -/
theorem answer_cases (config : Config) (s : Session) (r : Request) :
    (answer editorBackend config s r).2 = s ∨
      ∃ e, Concludes s e (answer editorBackend config s r) := by
  rw [answer]
  split
  · next route _ =>
    cases route with
    | edit =>
      rw [answerRoute]
      cases asked : config.framework.edit r with
      | error refusal =>
        refine .inl ?_
        simp only [answerEdit, asked]
      | ok e => exact .inr ⟨e, concludes_of_edit asked⟩
    | _ => exact .inl rfl
  · exact .inl rfl
  · exact .inl rfl
  · exact .inl rfl

/-- One request. -/
theorem serve_frame (config : Config) (r : Request) (quiet : s.editor.proposals.listeners = []) :
    s.Keeps (serve editorBackend config s r).2 ∧
      ((serve editorBackend config s r).1.response.status ≠ 200 →
        s.Untouched (serve editorBackend config s r).2) := by
  cases direct : config.framework.preflight? r with
  | some response =>
    have same : (serve editorBackend config s r).2 = s := by simp only [serve, direct]
    rw [same]
    exact ⟨.refl s, fun _ => .refl s⟩
  | none =>
    -- With a preview the answer is accepted, so only failures have to leave the files alone.
    rw [serve_state direct]
    rcases answer_cases config s r with same | ⟨e, note, apology, same⟩
    · rw [same]
      exact ⟨.refl s, fun _ => .refl s⟩
    · have proposal := proposal_of_proposeEdit e quiet
      cases result : (proposeEdit editorBackend s e).1 with
      | error f =>
        rw [result] at proposal
        rw [same]
        exact ⟨proposal.keeps, fun _ => proposal.untouched⟩
      | ok p =>
        rw [result] at same
        rw [serve_of_answer direct (sendable_json 200 (made_editReport p)) same, same]
        exact ⟨proposal.keeps, fun other => absurd config.framework.confirm_status other⟩

/-! ### Any number of requests -/

/-- The session after some requests. -/
def Session.after (config : Config) (s : Session) (requests : List Request) : Session :=
  requests.foldl (fun s r => (serve editorBackend config s r).2) s

theorem Session.keeps_after (config : Config) (requests : List Request)
    (quiet : s.editor.proposals.listeners = []) : s.Keeps (s.after config requests) := by
  induction requests generalizing s with
  | nil => exact .refl s
  | cons r requests ih =>
    have first := (serve_frame config r quiet).1
    exact first.trans (ih (first.listeners.trans quiet))

/-- What the answer to a request for an edit says of it. -/
structure Answered (s : Session) (e : EditRequest) (answer : Answer) (s' : Session) : Prop where
  unknown : ∀ name message,
    s.editor.document s.disk e.tab = .error (.problem (.noSuchTab name message)) →
    answer.response.status = 404 ∧
      answer.response.body = .json (Problem.noSuchTab name message).report
  unnamed : ∀ identifier, s.editor.document s.disk e.tab = .error (.unnamed identifier) →
    answer.response.status = 500
  failed : ∀ fault, s.editor.document s.disk e.tab = .error (.fault fault) →
    answer.response.status = 500
  refused : ∀ snapshot, s.editor.document s.disk e.tab = .ok snapshot → ¬ e.Fits snapshot.text →
    ∃ flaw, e.edited snapshot.text = .error flaw ∧
      if flaw.numbers.any Json.isLong then answer.response.status = 500
      else answer.response.status = 400 ∧
        answer.response.body = .json (Problem.range flaw).report
  accepted : answer.response.status = 200 → ∃ t proposed p path,
    s.editor.document s.disk e.tab = .ok (t.snapshot t.title t.text) ∧
    s.editor.workspace.seek s.disk e.tab = .ok t ∧ (∃ text, e.text = Text.pointsOf text) ∧
    e.edited t.text = .ok proposed ∧
    answer.response.body = .json (editReport p) ∧ p.path = some path ∧
    s'.disk.readBytes path = .ok (Encoding.Utf8.encode proposed) ∧
    (∃ at_, Disk.Replaces at_ (Encoding.Utf8.encode proposed) s.disk s'.disk) ∧
    p.diff = Diff.unified t.text proposed t.title s.editor.proposals.context ∧
    p.summary = Diff.summary t.text proposed

/-- An edit that does not fit is refused for what is wrong with it first. -/
theorem Proposal.refused_of_unfit {result : Except Failure Preview}
    (proposal : Proposal s e result s') {snapshot : Snapshot}
    (found : s.editor.document s.disk e.tab = .ok snapshot) (unfit : ¬ e.Fits snapshot.text) :
    ∃ flaw, e.edited snapshot.text = .error flaw ∧ result = .error (.ofRange flaw) := by
  cases proposal with
  | unresolved absent => cases absent.symm.trans found
  | @refused snapshot' flaw found' edited =>
    obtain rfl := Except.ok.inj (found.symm.trans found')
    exact ⟨flaw, edited, rfl⟩
  | unwritten found' edited kept =>
    obtain rfl := Except.ok.inj (found.symm.trans found')
    exact absurd (EditRequest.fits_iff.mpr ⟨_, edited⟩) unfit
  | written found' whole edited made located replaced =>
    obtain rfl := Except.ok.inj (found.symm.trans found')
    exact absurd (EditRequest.fits_iff.mpr ⟨_, edited⟩) unfit

theorem Proposal.accepted_of_ok {p : Preview} (proposal : Proposal s e (.ok p) s')
    (buffer : s.editor.source = .buffer) : ∃ t proposed path,
      s.editor.document s.disk e.tab = .ok (t.snapshot t.title t.text) ∧
      s.editor.workspace.seek s.disk e.tab = .ok t ∧ (∃ text, e.text = Text.pointsOf text) ∧
      e.edited t.text = .ok proposed ∧ p.path = some path ∧
      s'.disk.readBytes path = .ok (Encoding.Utf8.encode proposed) ∧
      (∃ at_, Disk.Replaces at_ (Encoding.Utf8.encode proposed) s.disk s'.disk) ∧
      p.diff = Diff.unified t.text proposed t.title s.editor.proposals.context ∧
      p.summary = Diff.summary t.text proposed := by
  cases proposal with
  | @written snapshot proposed text p at_ d found whole edited made located replaced =>
    obtain ⟨t, got, rfl⟩ := Editor.document_buffer buffer found
    subst made
    exact ⟨t, proposed, _, found, got, ⟨text, Text.chars?_eq_some_iff.mp whole⟩, edited, rfl,
      Disk.readBytes_eq_ok_iff.mpr ⟨at_, located, replaced.file, replaced.free⟩,
      ⟨at_, replaced⟩, rfl, rfl⟩

theorem answered_of_posted (config : Config) (buffer : s.editor.source = .buffer)
    (quiet : s.editor.proposals.listeners = []) (posted : r.method = "POST")
    (addressed : r.path = "/tabs/modify") {j : Json} (read : r.json = .ok j)
    (asked : EditRequest.ofJson j = .ok e) :
    Answered s e (serve editorBackend config s r).1 (serve editorBackend config s r).2 := by
  have direct : config.framework.preflight? r = none :=
    config.framework.preflight?_of_method (by rw [posted]; decide)
  have proposal := proposal_of_proposeEdit e quiet
  obtain ⟨note, apology, routed⟩ := concludes_of_posted (s := s) posted addressed
    (config.framework.edit_of_body read asked)
  refine ⟨fun name message absent => ?_, fun identifier absent => ?_, fun fault absent => ?_,
    fun snapshot found unfit => ?_, fun accepted => ?_⟩
  · rw [proposeEdit_of_error absent] at routed
    rw [serve_of_answer direct (sendable_json 404 (Problem.made_report _)) routed]
    exact ⟨config.framework.confirm_status, config.framework.confirm_body⟩
  · rw [proposeEdit_of_error absent] at routed
    rw [serve_of_failure direct routed]
    rfl
  · rw [proposeEdit_of_error absent] at routed
    rw [serve_of_answer direct (sendable_text 500 apology) routed]
    exact config.framework.confirm_status
  · obtain ⟨flaw, edited, refused⟩ := proposal.refused_of_unfit found unfit
    refine ⟨flaw, edited, ?_⟩
    rw [refused, EditRequest.ofRange_of_edited_error edited] at routed
    split
    · next long =>
      rw [if_pos long] at routed
      rw [serve_of_answer direct (sendable_text 500 apology) routed]
      exact config.framework.confirm_status
    · next short =>
      rw [if_neg short] at routed
      rw [serve_of_answer direct (sendable_json 400 (Problem.made_report _)) routed]
      exact ⟨config.framework.confirm_status, config.framework.confirm_body⟩
  · cases result : (proposeEdit editorBackend s e).1 with
    | error f =>
      rw [result] at routed
      exact absurd accepted (serve_of_conclude_error direct routed)
    | ok p =>
      rw [result] at routed proposal
      obtain ⟨t, proposed, path, found, got, whole, edited, named, held⟩ :=
        proposal.accepted_of_ok buffer
      rw [serve_of_answer direct (sendable_json 200 (made_editReport p)) routed]
      exact ⟨t, proposed, p, path, found, got, whole, edited, config.framework.confirm_body,
        named, held⟩

/-- Whatever was asked before, a request leaves the open documents as they are, and if it is not
accepted, all files and the last proposal too. A request for an edit is answered by what is wrong
with it first, if no number in that is too long, and where it is accepted, the file that is told
holds the edited text. -/
theorem only_proposes (config : Config) (s : Session) (buffer : s.editor.source = .buffer)
    (quiet : s.editor.proposals.listeners = []) (requests : List Request) (r : Request) :
    let here := s.after config requests
    let served := serve editorBackend config here r
    served.2.editor.workspace = s.editor.workspace ∧
    (served.1.response.status ≠ 200 → here.Untouched served.2) ∧
    ∀ j e, r.method = "POST" → r.path = "/tabs/modify" → r.json = .ok j →
      EditRequest.ofJson j = .ok e → Answered here e served.1 served.2 := by
  have kept := Session.keeps_after config requests quiet
  have quiet' := kept.listeners.trans quiet
  obtain ⟨keeps, untouched⟩ := serve_frame config r quiet'
  refine ⟨keeps.workspace.trans kept.workspace, untouched, ?_⟩
  intro j e posted addressed read asked
  exact answered_of_posted config (kept.source.trans buffer) quiet' posted addressed read asked

/-- An edit that deletes a character, after a request for a tab that is not there. -/
theorem only_proposes_after_unknown :
    let t : Tab := ⟨"t", "a.md", none, "markdown", ['a', 'b'], 1, none⟩
    let s : Session := ⟨⟨[(["p"], .directory)], [], ⟨1, []⟩, ⟨1, []⟩, [], []⟩,
      ⟨⟨1, []⟩, [t], ["t"], 1⟩, .buffer, ⟨⟨1, ["p"]⟩, 3, [], none, []⟩⟩
    let config : Config := ⟨.usual ⟨[], [], []⟩, none, none⟩
    let unknown : Request := ⟨"GET", "/tabs/b.md", "", [], [], none⟩
    let body := "\x7b\"tabName\": \"a.md\", \"startLine\": 0, \"startCharacter\": 1, " ++
      "\"endLine\": 0, \"endCharacter\": 2\x7d"
    let r : Request := ⟨"POST", "/tabs/modify", "", [], Encoding.Utf8.encode body.toList, none⟩
    let served := serve editorBackend config (s.after config [unknown]) r
    served.1.response.status = 200 ∧ served.2.editor.workspace.table = [t] ∧
      ∃ path, served.2.disk.readBytes path = .ok [97] := by
  intro t s config unknown body r
  have accepted : (serve editorBackend config (s.after config [unknown]) r).1.response.status =
      200 := by
    decide +kernel
  have asked : (do
      let e ← (EditRequest.ofJson (← r.json.toOption)).toOption
      let here := s.after config [unknown]
      let t ← (here.editor.workspace.seek here.disk e.tab).toOption
      (e.edited t.text).toOption) = some ['a'] := by
    decide +kernel
  have outcome := only_proposes config s rfl rfl [unknown] r
  -- The requests are evaluated once; what follows is about whatever came of them.
  simp only at outcome
  generalize s.after config [unknown] = here at accepted asked outcome ⊢
  generalize serve editorBackend config here r = served at accepted outcome ⊢
  obtain ⟨same, _, answered⟩ := outcome
  cases read : r.json with
  | error flaw => simp [read, Except.toOption] at asked
  | ok j =>
    cases form : EditRequest.ofJson j with
    | error complaints => simp [read, form, Except.toOption] at asked
    | ok e =>
      obtain ⟨u, proposed, p, path, _, got, _, edited, _, _, held, _⟩ :=
        (answered j e rfl rfl read form).accepted accepted
      simp only [read, form, got, edited, Except.toOption, Option.bind_eq_bind, Option.bind_some,
        Option.some.injEq] at asked
      subst asked
      exact ⟨accepted, congrArg Workspace.table same, path, held⟩

/-- The search for a path with a NUL fails, so that a negative line is not told, and a torn identifier
is not told to name no tab. -/
theorem edits_fail_for_lost_identifiers :
    let s : Session := ⟨⟨[], [], ⟨1, []⟩, ⟨1, []⟩, [], []⟩, ⟨⟨1, []⟩, [], [], 1⟩, .buffer,
      ⟨⟨1, ["p"]⟩, 3, [], none, []⟩⟩
    let config : Config := ⟨.usual ⟨[], [], []⟩, none, none⟩
    let body (tab startLine : String) := "\x7b\"tabName\": \"" ++ tab ++ "\", \"startLine\": " ++
      startLine ++ ", \"startCharacter\": 0, \"endLine\": 0, \"endCharacter\": 0\x7d"
    let post (tab startLine : String) : Request :=
      ⟨"POST", "/tabs/modify", "", [], Encoding.Utf8.encode (body tab startLine).toList, none⟩
    let asked (r : Request) := r.json.toOption.bind fun j => (EditRequest.ofJson j).toOption
    let nul : EditRequest := ⟨Text.points "a\x00b", -1, 0, 0, 0, []⟩
    let torn : EditRequest := ⟨[.char 'a', .surrogate 0x4ff], 0, 0, 0, 0, []⟩
    (asked (post "a\\u0000b" "-1") = some nul ∧
      s.editor.document s.disk nul.tab = .error (.fault .nulInPath) ∧ nul.startLine < 0 ∧
      (serve editorBackend config s (post "a\\u0000b" "-1")).1.response.status = 500) ∧
    asked (post "a\\udcff" "0") = some torn ∧
      s.editor.document s.disk torn.tab = .error (.unnamed torn.tab) ∧
      (serve editorBackend config s (post "a\\udcff" "0")).1.response.status = 500 := by
  decide +kernel

end Web

end OpenDocs
