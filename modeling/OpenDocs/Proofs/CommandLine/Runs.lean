import OpenDocs.Log.Setup
import OpenDocs.Proofs.CommandLine.Opening
import OpenDocs.Proofs.Disk.Spelling
import OpenDocs.Proofs.Settings.Layers

/-!
# How a run comes out

A run shows its settings, or ends before there is a server because its text source is not known or a
file cannot be opened, or sets a server up for the files and closes it in the end. Which of these it
is follows from the arguments, the settings and the files alone.
-/

namespace OpenDocs.CommandLine

open Tabs

/-- The arguments and the settings that a run goes by, which have values of the declared kinds. -/
structure GoesBy (d : Disk) (env : Settings.Environment) (words : List String) (a : Arguments)
    (s : Settings) : Prop where
  arguments : Arguments.ofWords words = .ok a
  settings : ∃ path, settingsPath d env a = .ok path ∧
    (Settings.loadOrInitial d env.variables path a.overrides).1 = .ok s
  declared (f : Settings.Field) : f.Admits (s.value f)

/-- No path that a run is given begins at an unknown home or has a NUL. -/
structure Located (d : Disk) (a : Arguments) (s : Settings) : Prop where
  files : ∀ file ∈ a.files, ∃ path, d.normalize (.ofString file) = .ok path
  root : ∀ root ∈ a.root, ∃ path, d.normalize (.ofString root) = .ok path
  directories : ∀ f ∈ [Settings.Field.assetsDir, .diffDir], ∀ t, s.value f = .text t →
    ∃ path, d.expandHome (.ofString t) = .ok path

/-- The text source is one of the two that are known. -/
def Supports (s : Settings) : Prop :=
  s.value .textSource = .text "buffer" ∨ s.value .textSource = .text "disk"

/-- A run sets a service up for the files and closes it once. It ends as the server does. -/
structure Serves (d : Disk) (a : Arguments) (s : Settings) (ending : Json → Json → Ending)
    (r : Report) (service : Service) : Prop where
  given : r.service = some service
  tried : r.tried = a.files
  settings : service.settings = s
  root : d.normalize ((a.root.map .ofString).getD ⟨0, []⟩) =
    .ok service.session.editor.workspace.root
  paths : service.session.editor.workspace.tabs.map (·.path) =
    (forms d a.files).eraseDups.map some
  documents : service.session.editor.documents = (forms d a.files).eraseDups.map fun path =>
    (Tab.fileTitle path,
      ((path.relativeTo? service.session.editor.workspace.root).getD path).text)
  host : service.host = s.value .host
  port : service.port = s.value .port
  closed : service.steps.count .close = 1
  notStarted (message : String) :
    ending (s.value .host) (s.value .port) = .notStarted message → r.conclusion = .exit 1
  interrupted : (∀ message, ending (s.value .host) (s.value .port) ≠ .notStarted message) →
    r.conclusion = .exit 0

/-- A run ends at a file that cannot be opened, and goes to none behind it. -/
structure StopsAt (a : Arguments) (front : List String) (file : String) (f : Disk.Fault)
    (r : Report) : Prop where
  files : ∃ back, a.files = front ++ file :: back
  conclusion : r.conclusion = .exit 2
  service : r.service = none
  tried : r.tried = front ++ [file]
  errors : r.errors = s!"Cannot open {file}: {f.message}\n"

/-- How a run that shows no settings comes out. -/
inductive Outcome (d : Disk) (a : Arguments) (s : Settings) (ending : Json → Json → Ending)
    (r : Report) : Prop
  | unsupported : ¬ Supports s → r.conclusion = .exit 2 → r.service = none → r.tried = [] →
      Outcome d a s ending r
  | stopped {front : List String} {file : String} {f : Disk.Fault} : Supports s →
      NoneFails d [] front → Fails d front file f → StopsAt a front file f r →
      Outcome d a s ending r
  | served {service : Service} : Supports s → NoneFails d [] a.files →
      Serves d a s ending r service → Outcome d a s ending r

section

variable {d : Disk} {a : Arguments} {s : Settings} {p : Disk.Path} {f : Disk.Fault}

theorem located_of_isPlain (files : ∀ file ∈ a.files, (Disk.Path.ofString file).isPlain = true)
    (root : ∀ root ∈ a.root, (Disk.Path.ofString root).isPlain = true)
    (directories : ∀ f ∈ [Settings.Field.assetsDir, .diffDir], ∀ t, s.value f = .text t →
      (Disk.Path.ofString t).isPlain = true) : Located d a s where
  files file listed := Disk.exists_normal_of_isPlain (files file listed)
  root r given := Disk.exists_normal_of_isPlain (root r given)
  directories f listed t text := ⟨_, Disk.expandHome_of_isPlain (directories f listed t text)⟩

/-! ### What is told of a file that cannot be opened -/

theorem isTold_of_unread (free : p.hasNul = false)
    (unread : d.readText p none "strict" = .error f) : isTold f = true := by
  rcases bind_eq_error_iff.mp unread with unread | ⟨bytes, _, undecoded⟩
  · rcases bind_eq_error_iff.mp unread with unfound | ⟨e, _, refused⟩
    · rcases Disk.find_error unfound with ⟨_, nul⟩ | ⟨flaw, text, rfl⟩
      · rw [free] at nul
        cases nul
      · rfl
    · cases e with
      | file bytes =>
        change (if d.isSealed p then _ else _) = _ at refused
        split at refused
        · obtain rfl := Except.error.inj refused
          rfl
        · cases refused
      | directory =>
        obtain rfl := Except.error.inj refused
        rfl
  · cases decoded : Encoding.textOf bytes none "strict" with
    | ok t =>
      rw [decoded] at undecoded
      cases undecoded
    | error refusal =>
      rw [decoded] at undecoded
      obtain rfl := Except.error.inj undecoded
      obtain ⟨flaw, rfl⟩ := Encoding.undecodable_of_textOf_error decoded
      rfl

/-! ### What is set up from the settings -/

theorem exists_workspace (located : Located d a s) :
    ∃ w, Workspace.empty d (a.root.map .ofString) = .ok w ∧ HasFiles d w.root w [] ∧
      d.normalize ((a.root.map .ofString).getD ⟨0, []⟩) = .ok w.root := by
  obtain ⟨root, normal⟩ :
      ∃ root, d.normalize ((a.root.map .ofString).getD ⟨0, []⟩) = .ok root := by
    cases given : a.root with
    | none => exact ⟨_, rfl⟩
    | some root => exact located.root root given
  have made : Workspace.empty d (a.root.map .ofString) = .ok ⟨root, [], [], 1⟩ := by
    rw [Workspace.empty, normal]
    rfl
  exact ⟨_, made, ⟨rfl, (Workspace.registered_of_empty made).registered, rfl⟩, normal⟩

/-- A directory that the settings give, or none. -/
theorem value_cases (declared : ∀ f : Settings.Field, f.Admits (s.value f))
    {f : Settings.Field} (listed : f ∈ [Settings.Field.assetsDir, .diffDir]) :
    s.value f = .null ∨ ∃ t, s.value f = .text t := by
  have admits := declared f
  rcases List.mem_pair.mp listed with rfl | rfl <;> exact admits

theorem exists_proposals {t : String} {directory : Disk.Path}
    (expanded : d.expandHome (.ofString t) = .ok directory) :
    ∃ ps, Proposals.inDirectory d (some t) 3 = .ok ps := by
  by_cases empty : t = ""
  · subst empty
    exact ⟨_, rfl⟩
  · rw [Proposals.inDirectory, expanded]
    · exact ⟨_, rfl⟩
    · exact empty

theorem exists_editor (located : Located d a s)
    (declared : ∀ f : Settings.Field, f.Admits (s.value f)) (source : TextSource) :
    ∃ editor, editorFor d s a source = .ok editor ∧
      HasFiles d editor.workspace.root editor.workspace [] ∧
      d.normalize ((a.root.map .ofString).getD ⟨0, []⟩) = .ok editor.workspace.root := by
  obtain ⟨w, made, has, root⟩ := exists_workspace located
  have listed : Settings.Field.diffDir ∈ [Settings.Field.assetsDir, .diffDir] := by decide
  rw [editorFor, made]
  rcases value_cases declared listed with null | ⟨t, text⟩
  · rw [null]
    exact ⟨_, rfl, has, root⟩
  · obtain ⟨directory, expanded⟩ := located.directories .diffDir listed t text
    obtain ⟨ps, proposals⟩ := exists_proposals expanded
    refine ⟨⟨w, source, ps⟩, ?_, has, root⟩
    simp only [text, proposals, Except.mapError, bind, Except.bind, pure, Except.pure]

theorem exists_config (located : Located d a s)
    (declared : ∀ f : Settings.Field, f.Admits (s.value f)) :
    ∃ config, Web.Config.ofSettings d s = .ok config := by
  have listed : Settings.Field.assetsDir ∈ [Settings.Field.assetsDir, .diffDir] := by decide
  obtain ⟨origins, hasOrigins⟩ := declared .corsOrigins
  obtain ⟨methods, hasMethods⟩ := declared .corsMethods
  obtain ⟨headers, hasHeaders⟩ := declared .corsHeaders
  obtain ⟨assets, found⟩ : ∃ assets, Web.settingPath d s .assetsDir = .ok assets := by
    rw [Web.settingPath]
    rcases value_cases declared listed with null | ⟨t, text⟩
    · rw [null]
      exact ⟨_, rfl⟩
    · obtain ⟨directory, expanded⟩ := located.directories .assetsDir listed t text
      rw [text]
      split
      · exact ⟨_, rfl⟩
      · next same =>
        obtain rfl := Json.text.inj same
        rw [expanded]
        exact ⟨_, rfl⟩
      · next other => exact absurd rfl (other t)
  rw [Web.Config.ofSettings, found]
  simp only [Web.Config.listOf, hasOrigins, hasMethods, hasHeaders]
  exact ⟨_, rfl⟩

/-! ### The run -/

variable {ending : Json → Json → Ending} {r : Report}

/-- The server is closed once, whatever came of it. -/
theorem count_close_serve (host port : Json) (ending : Ending) :
    (serve host port ending).steps.count .close = 1 := by
  cases ending <;> rfl

theorem documents_of_hasFiles {editor : Editor} {files : List String} {root : Disk.Path}
    (has : HasFiles d root editor.workspace files) :
    editor.documents = (forms d files).eraseDups.map fun path =>
      (Tab.fileTitle path, ((path.relativeTo? editor.workspace.root).getD path).text) := by
  let listed (e : String × Option Disk.Path) : String × String :=
    (e.1, e.2.elim e.1 fun path => ((path.relativeTo? editor.workspace.root).getD path).text)
  have shown (t : Tab) : (t.title, editor.workspace.shownPath t) = listed (t.title, t.path) := by
    rw [Workspace.shownPath]
    cases t.path <;> rfl
  calc editor.documents
      = (editor.workspace.tabs.map fun t => (t.title, t.path)).map listed := by
        rw [List.map_map]
        exact List.map_congr_left fun t _ => shown t
    _ = _ := by
        rw [has.tabs, List.map_map]
        rfl

/-- All is served that was opened. -/
theorem serves_of_hasFiles {editor : Editor} {root : Disk.Path} (config : Web.Config)
    (ending : Json → Json → Ending) (has : HasFiles d root editor.workspace a.files)
    (normal : d.normalize ((a.root.map .ofString).getD ⟨0, []⟩) = .ok root)
    (tried : r.tried = a.files) :
    ∃ service, Serves d a s ending (r.serving s config ⟨d, editor⟩ ending) service := by
  have paths := congrArg (List.map Prod.snd) has.tabs
  rw [List.map_map, List.map_map] at paths
  refine ⟨_, rfl, tried, rfl, has.root ▸ normal, paths, documents_of_hasFiles has, rfl, rfl,
    count_close_serve (s.value .host) (s.value .port) _, fun message refused => ?_, fun started => ?_⟩
  · simp only [Report.serving, refused]
    rfl
  · rw [Report.serving]
    cases came : ending (s.value .host) (s.value .port) with
    | notStarted message => exact absurd came (started message)
    | cutShort => rfl
    | interrupted => rfl

theorem runWith_outcome (located : Located d a s)
    (declared : ∀ f : Settings.Field, f.Admits (s.value f)) (supports : Supports s)
    (source : TextSource) (ending : Json → Json → Ending) (r : Report) (idle : r.service = none) :
    Outcome d a s ending (runWith d s a source ending r) := by
  obtain ⟨editor, made, has, root⟩ := exists_editor located declared source
  obtain ⟨config, configured⟩ := exists_config located declared
  rw [runWith, made]
  rcases openFiles_outcome has located.files with ⟨none_, failed, tried, all⟩ |
    ⟨front, file, back, f, same, none_, fails, failed, tried⟩
  · simp only [failed, configured]
    refine (serves_of_hasFiles config ending all root ?_).elim fun _ serves =>
      .served supports none_ serves
    exact tried
  · have listed : file ∈ a.files := same ▸ List.mem_append_right front List.mem_cons_self
    obtain ⟨path, normal⟩ := located.files file listed
    have told : isTold f = true := isTold_of_unread (Disk.hasNul_eq_false_of_normalize normal) fails.unread
    simp only [failed, told, if_true]
    exact .stopped supports none_ fails ⟨⟨back, same⟩, rfl, idle, tried, rfl⟩

theorem noneFails_iff {files : List String} : NoneFails d [] files ↔
    ¬ ∃ front file back f, files = front ++ file :: back ∧ Fails d front file f := by
  constructor
  · rintro none_ ⟨front, file, back, f, same, fails⟩
    exact none_ front file back same f fails
  · intro none_ front file back same f fails
    exact none_ ⟨front, file, back, f, same, fails⟩

theorem exists_source (supports : Supports s) :
    ∃ source : TextSource, s.value .textSource = .text source.name ∧
      TextSource.named? source.name = some source := by
  rcases supports with text | text
  · exact ⟨.buffer, text, by decide⟩
  · exact ⟨.disk, text, by decide⟩

theorem named?_eq_none {name : String} (other : ∀ source : TextSource, name ≠ source.name) :
    TextSource.named? name = none := by
  rw [TextSource.named?, List.find?_eq_none]
  intro source _ same
  exact other source (eq_of_beq same).symm

variable {env : Settings.Environment} {words : List String} {d' : Disk}
  {logging : LogSetup → Disk → Except Disk.Fault Disk}

theorem runSettled_outcome (logs : logging (logSetup s a) d = .ok d') (located : Located d' a s)
    (declared : ∀ f : Settings.Field, f.Admits (s.value f)) (ending : Json → Json → Ending)
    (r : Report) (idle : r.service = none) (untried : r.tried = []) :
    Outcome d' a s ending (runSettled d s a logging ending r) := by
  by_cases supports : Supports s
  · obtain ⟨source, text, named⟩ := exists_source supports
    simp only [runSettled, logs, text, named]
    exact runWith_outcome located declared supports source ending _ idle
  · obtain ⟨name, text⟩ := declared .textSource
    have other : ∀ source : TextSource, name ≠ source.name := by
      rintro (_ | _) rfl
      · exact supports (.inl text)
      · exact supports (.inr text)
    simp only [runSettled, logs, text, named?_eq_none other]
    exact .unsupported supports rfl idle untried

theorem run_eq (goesBy : GoesBy d env words a s)
    (logging : LogSetup → Disk → Except Disk.Fault Disk) (ending : Json → Json → Ending) :
    ∃ path log, run d env words logging ending =
      let r := { Report.ending (.exit 0) with log := log }
      if a.dumpSettings then { r with output := dumpText s path a env }
      else runSettled d s a logging ending r := by
  obtain ⟨path, located, loaded⟩ := goesBy.settings
  cases whole : Settings.loadOrInitial d env.variables path a.overrides with
  | mk result notices =>
    rw [whole] at loaded
    obtain rfl : result = .ok s := loaded
    refine ⟨path, noticed notices, ?_⟩
    simp only [run, goesBy.arguments, located, whole]

/-- A run that shows the settings opens nothing. Any other ends before there is a server just if its
text source is not known or a file cannot be opened, and goes to no file behind that one. Otherwise
it serves the files, each once, where the settings say. -/
theorem run_outcome (goesBy : GoesBy d env words a s)
    (logs : logging (logSetup s a) d = .ok d') (located : Located d' a s)
    (ending : Json → Json → Ending) :
    let r := run d env words logging ending
    let fails := ∃ front file back f, a.files = front ++ file :: back ∧ Fails d' front file f
    (a.dumpSettings = true → r.conclusion = .exit 0 ∧ r.service = none ∧ r.tried = []) ∧
    (a.dumpSettings = false →
      (r.conclusion = .exit 2 ∧ r.service = none ↔ ¬ Supports s ∨ fails) ∧
      (¬ Supports s → r.tried = []) ∧
      (Supports s → fails → ∃ front file f, NoneFails d' [] front ∧ Fails d' front file f ∧
        StopsAt a front file f r) ∧
      (Supports s → ¬ fails → ∃ service, Serves d' a s ending r service)) := by
  intro r fails
  obtain ⟨path, log, whole⟩ := run_eq goesBy logging ending
  have shown : r = _ := whole
  refine ⟨fun dumps => ?_, fun undumped => ?_⟩
  · rw [shown, if_pos dumps]
    exact ⟨rfl, rfl, rfl⟩
  rw [if_neg (Bool.not_eq_true _ ▸ undumped)] at shown
  have outcome : Outcome d' a s ending r := by
    rw [shown]
    exact runSettled_outcome logs located goesBy.declared ending _ rfl rfl
  -- Each way to come out decides both sides of the equivalence and two of the implications.
  cases outcome with
  | unsupported unsupported conclusion idle untried =>
    exact ⟨iff_of_true ⟨conclusion, idle⟩ (.inl unsupported), fun _ => untried,
      fun supports => absurd supports unsupported, fun supports => absurd supports unsupported⟩
  | @stopped front file f supports none_ failed stops =>
    obtain ⟨back, same⟩ := stops.files
    have failed' : fails := ⟨front, file, back, f, same, failed⟩
    exact ⟨iff_of_true ⟨stops.conclusion, stops.service⟩ (.inr failed'),
      fun unsupported => absurd supports unsupported,
      fun _ _ => ⟨front, file, f, none_, failed, stops⟩, fun _ fine => absurd failed' fine⟩
  | @served service supports none_ serves =>
    have fine : ¬ fails := noneFails_iff.mp none_
    have busy : ¬ (r.conclusion = .exit 2 ∧ r.service = none) := by
      rintro ⟨_, idle⟩
      cases serves.given.symm.trans idle
    exact ⟨iff_of_false busy (not_or_intro (not_not_intro supports) fine),
      fun unsupported => absurd supports unsupported, fun _ failed => absurd failed fine,
      fun _ _ => ⟨service, serves⟩⟩

/-- Two ways to write one path make one tab, which is served where the arguments say. -/
theorem run_outcome_of_two_spellings :
    let d : Disk := ⟨[(["a"], .file [97]), (["b"], .file [98])], [], ⟨1, []⟩, ⟨1, []⟩, [], []⟩
    let logging : LogSetup → Disk → Except Disk.Fault Disk := fun setup d =>
      let done := Log.Logging.initial.setUp d [] { Log.Setup.usual with level := setup.level }
      done.1.map fun _ => done.2.2
    let r := run d [] ["a", "./a", "b", "--host=::1"] logging fun _ _ => .interrupted
    ∃ service, r.service = some service ∧ r.conclusion = .exit 0 ∧ service.host = .text "::1" ∧
      service.session.editor.workspace.tabs.map (·.path) = [some ⟨1, ["a"]⟩, some ⟨1, ["b"]⟩] ∧
      service.steps.count .close = 1 := by
  intro d logging r
  let a : Arguments := { Arguments.none with files := ["a", "./a", "b"], host := some "::1" }
  let s : Settings := Settings.initial.set .host (.text "::1")
  have goesBy : GoesBy d [] ["a", "./a", "b", "--host=::1"] a s := by
    refine ⟨rfl, ⟨⟨1, [".tabbridge", "settings.json"]⟩, rfl, rfl⟩, fun f => ?_⟩
    cases f with
    | assetsDir | diffDir | logDir => exact .inl rfl
    | _ => exact ⟨_, rfl⟩
  -- The files are as they were, with those of the log beside them.
  let d' : Disk := { d with entries := d.entries ++ [([".tabbridge"], .directory),
    ([".tabbridge", "logs"], .directory), ([".tabbridge", "logs", "tabbridge.log"], .file []),
    ([".tabbridge", "logs", "access.log"], .file [])] }
  have logs : logging (logSetup s a) d = .ok d' := by decide +kernel
  have located : Located d' a s := by
    refine located_of_isPlain (by decide +kernel) nofun fun f listed t text => ?_
    rcases List.mem_pair.mp listed with rfl | rfl <;> cases text
  have fine : ¬ ∃ front file back f, a.files = front ++ file :: back ∧ Fails d' front file f := by
    have reads : ∀ file ∈ a.files, (d'.readText (.ofString file) none "strict").isOk = true := by
      decide +kernel
    rintro ⟨front, file, back, f, same, fails⟩
    have read := reads file (same ▸ List.mem_append_right front List.mem_cons_self)
    rw [fails.unread] at read
    cases read
  obtain ⟨service, serves⟩ :=
    ((run_outcome goesBy logs located fun _ _ => .interrupted).2 rfl).2.2.2 (.inl rfl) fine
  refine ⟨service, serves.given, serves.interrupted nofun, serves.host, ?_, serves.closed⟩
  rw [serves.paths]
  decide +kernel

/-- A run neither tells of a file whose path begins at an unknown home nor serves, though only a
step that says nothing stands before the tilde. -/
theorem run_fails_at_hidden_home :
    let d : Disk := ⟨[(["~x"], .file [97])], [], ⟨1, []⟩, ⟨1, []⟩, [], []⟩
    let a : Arguments := { Arguments.none with files := ["./~x"] }
    let r := run d [] ["./~x"] (fun _ d => .ok d) fun _ _ => .interrupted
    GoesBy d [] ["./~x"] a .initial ∧ a.dumpSettings = false ∧ Supports .initial ∧
      (∀ file ∈ a.files, file.startsWith "~" = false ∧ '\x00' ∉ file.toList) ∧
      r.conclusion.message = "error: Could not determine home directory.\n" ∧ r.conclusion.code = 1 ∧
      r.service.isNone = true := by
  intro d a r
  have goesBy : GoesBy d [] ["./~x"] a .initial :=
    ⟨rfl, ⟨⟨1, [".tabbridge", "settings.json"]⟩, rfl, rfl⟩, Settings.initial_admits⟩
  exact ⟨goesBy, rfl, .inl rfl, by decide +kernel, by decide +kernel, by decide +kernel,
    by decide +kernel⟩

end

end OpenDocs.CommandLine
