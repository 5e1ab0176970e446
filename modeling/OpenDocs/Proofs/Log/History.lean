import OpenDocs.Proofs.Log.Routing

/-!
# Logging after any calls

The paths that logging reports lead to the files that are written, whatever calls came before,
unless the last call that opened the first of its files could not open the second. Such a call leaves
the root with the new file and the request lines with none, while the paths of an earlier call are
still reported. All other calls that fail change nothing.
-/

namespace OpenDocs.Log

/-- The files that the logger's own sinks write to. -/
def Logger.files (l : Logger) : List RollingFile := l.sinks.filterMap Sink.file?

/-- The path leads to the file from a working directory. -/
def RollingFile.IsAt (f : RollingFile) (working : List String) (p : Disk.Path) : Prop :=
  ∀ d : Disk, d.working = working → d.resolve p = .ok (.ofNames f.place)

/-- The root writes to one file and the logger of request lines to one, where the paths lead. -/
structure Loggers.WriteTo (t : Loggers) (working : List String) (paths : Paths) : Prop where
  application : ∃ f, (t []).files = [f] ∧ f.IsAt working paths.application
  access : ∃ f, (t accessName).files = [f] ∧ f.IsAt working paths.access

theorem filterMap_consoleSinks (s : Setup) : s.consoleSinks.filterMap Sink.file? = [] := by
  rw [Setup.consoleSinks]
  split <;> rfl

section

variable {s : Setup} {t : Loggers} {application access : RollingFile}

theorem files_root_setRoot :
    (dropAccessSinks (s.setRoot t application) []).files = [application] :=
  congrArg (application :: ·) (filterMap_consoleSinks s)

theorem writeTo_loggers {working : List String} {paths : Paths}
    (first : application.IsAt working paths.application)
    (second : access.IsAt working paths.access) :
    (s.loggers t application access).WriteTo working paths where
  application := ⟨application, congrArg (application :: ·) (filterMap_consoleSinks s), first⟩
  access := by
    rw [loggers_access]
    exact ⟨access, congrArg (access :: ·) (filterMap_consoleSinks s), second⟩

theorem sinks_access_dropped : (dropAccessSinks t accessName).sinks = [] := by
  rw [dropAccessSinks, Loggers.modify_self]

end

namespace Logging

variable {d d' between : Disk} {env : Settings.Environment} {g : Logging} {s : Setup}
  {target p : Disk.Path} {application f : RollingFile} {working : List String}
  {outcome : Except Disk.Fault Paths × Logging × Disk} {torn : Prop}

theorem isAt_of_openRolling {maxBytes backups : Int}
    (opened : openRolling d p maxBytes backups = .ok (f, d')) : f.IsAt d.working p := by
  intro other same
  rw [resolve_of_working same]
  exact (openRolling_eq_ok opened).1

theorem OpensFirst.isAt (opens : OpensFirst d env g s target application between) :
    application.IsAt d.working (pathsIn target).application := by
  obtain ⟨_, _, made, run, opened⟩ := opens
  have same := working_makeDirectories d target
  rw [run] at same
  rw [← same]
  exact isAt_of_openRolling opened

/-! ### What one call leaves -/

/-- Where a call stops between the files, the root has the new one and the request lines none. -/
theorem Ends.torn_files (ends : Ends d env g s outcome) (stops : StopsBetween d env g s) :
    ∃ fault target application, outcome.1 = .error fault ∧
      (outcome.2.1.loggers []).files = [application] ∧
      application.IsAt d.working (pathsIn target).application ∧
      (outcome.2.1.loggers accessName).sinks = [] := by
  obtain ⟨target, application, between, fault, opens, failed⟩ := stops
  cases ends with
  | idle reported unforced => exact absurd opens (not_opensFirst reported unforced)
  | refused unopened _ => exact absurd opens (unopened _ _ _)
  | torn opens' _ =>
    exact ⟨_, _, _, rfl, files_root_setRoot, opens'.isAt, sinks_access_dropped⟩
  | through opens' opened =>
    have goes : GoesThrough d env g s _ := ⟨_, _, _, _, opens', opened⟩
    exact absurd ⟨_, _, _, _, opens, failed⟩ goes.not_stopsBetween

/-- Where both files are opened, they are the ones that the loggers write to. -/
theorem Ends.through_files (ends : Ends d env g s outcome) (goes : GoesThrough d env g s target) :
    outcome.1 = .ok (pathsIn target) ∧ outcome.2.1.loggers.WriteTo d.working (pathsIn target) := by
  obtain ⟨application, between, access, d', opens, opened⟩ := goes
  cases ends with
  | idle reported unforced => exact absurd opens (not_opensFirst reported unforced)
  | refused unopened _ => exact absurd opens (unopened _ _ _)
  | torn opens' failed =>
    have whole := GoesThrough.not_stopsBetween ⟨_, _, _, _, opens, opened⟩
    exact absurd ⟨_, _, _, _, opens', failed⟩ whole
  | through opens' opened' =>
    obtain ⟨rfl, rfl, rfl⟩ := opens'.unique opens
    have second := isAt_of_openRolling opened'
    rw [opens'.working_eq] at second
    exact ⟨rfl, writeTo_loggers opens'.isAt second⟩

/-! ### Calls one after the other -/

/-- Whether the last call that opened the first file could not open the second, which is known of
the calls before this one. -/
def TornAfter (d : Disk) (env : Settings.Environment) (g : Logging) (s : Setup) (torn : Prop) :
    Prop :=
  StopsBetween d env g s ∨
    torn ∧ ∀ target application between, ¬ OpensFirst d env g s target application between

/-- Either the request lines are written nowhere, or what is reported is written. -/
structure Stands (working : List String) (g : Logging) (torn : Prop) : Prop where
  silent : torn → (g.loggers accessName).sinks = []
  writes : ¬ torn → ∀ paths, g.paths = some paths → g.loggers.WriteTo working paths

theorem Stands.of_unopened (stands : Stands working g torn)
    (unopened : ∀ target application between,
      ¬ OpensFirst d env g s target application between) :
    Stands working g (TornAfter d env g s torn) where
  silent := by
    rintro (⟨_, _, _, _, opens, _⟩ | ⟨torn, _⟩)
    · exact absurd opens (unopened _ _ _)
    · exact stands.silent torn
  writes whole := stands.writes fun torn => whole (.inr ⟨torn, unopened⟩)

/-- What one call does to this. -/
theorem Ends.stands (ends : Ends d env g s outcome) (stands : Stands d.working g torn) :
    Stands d.working outcome.2.1 (TornAfter d env g s torn) := by
  cases ends with
  | idle reported unforced =>
    exact stands.of_unopened fun _ _ _ => not_opensFirst reported unforced
  | refused unopened _ => exact stands.of_unopened unopened
  | torn opens failed =>
    have stops : StopsBetween d env g s := ⟨_, _, _, _, opens, failed⟩
    exact ⟨fun _ => sinks_access_dropped, fun whole => absurd (.inl stops) whole⟩
  | through opens opened =>
    have goes : GoesThrough d env g s _ := ⟨_, _, _, _, opens, opened⟩
    constructor
    · rintro (stops | ⟨_, unopened⟩)
      · exact absurd stops goes.not_stopsBetween
      · exact absurd opens (unopened _ _ _)
    · intro _ paths reported
      obtain rfl := Option.some.inj reported
      exact ((Ends.through opens opened).through_files goes).2

/-- The calls so far, the last one outermost, each with the disk that it finds. -/
inductive History where
  | start
  | call (earlier : History) (d : Disk) (env : Settings.Environment) (s : Setup)

namespace History

def logging : History → Logging
  | start => .initial
  | call earlier d env s => (earlier.logging.setUp d env s).2.1

/-- The calls find various disks, but one working directory. -/
def StaysIn (working : List String) : History → Prop
  | start => True
  | call earlier d _ _ => earlier.StaysIn working ∧ d.working = working

/-- The last call that opened the first file could not open the second. -/
def Torn : History → Prop
  | start => False
  | call earlier d env s => TornAfter d env earlier.logging s earlier.Torn

end History

theorem History.stands {h : History} (stays : h.StaysIn working) :
    Stands working h.logging h.Torn := by
  induction h with
  | start => exact ⟨False.elim, fun _ _ reported => nomatch reported⟩
  | call earlier d env s ih =>
    obtain ⟨before, rfl⟩ := stays
    exact (setUp_ends d env earlier.logging s).stands (ih before)

/-- After any calls the paths that are reported lead to the files that are written, if the last call
that opened the first file opened the second too, and only then. A call that opens both goes through,
and its paths are reported. A call that fails leaves everything as it was if it does not stop between
the files; if it does, the root has the new file and the request lines have none. A call that is not
forced after one that went through does nothing. -/
theorem reported_after_calls (h : History) (stays : h.StaysIn working) :
    ((∀ paths, h.logging.paths = some paths → h.logging.loggers.WriteTo working paths) ↔
      (h.logging.paths = none ∨ ¬ h.Torn)) ∧
    ∀ d env s, d.working = working →
      let outcome := h.logging.setUp d env s
      let after := outcome.2.1
      (∀ target, GoesThrough d env h.logging s target → outcome.1 = .ok (pathsIn target) ∧
        after.loggers.WriteTo working (pathsIn target)) ∧
      (∀ paths, outcome.1 = .ok paths → after.paths = some paths) ∧
      (∀ fault, outcome.1 = .error fault → after.paths = h.logging.paths ∧
        (¬ StopsBetween d env h.logging s → after = h.logging)) ∧
      (StopsBetween d env h.logging s → ∃ fault target application, outcome.1 = .error fault ∧
        (after.loggers []).files = [application] ∧
        application.IsAt working (pathsIn target).application ∧
        (after.loggers accessName).sinks = []) ∧
      (∀ paths, h.logging.paths = some paths → s.force = false →
        outcome = (.ok paths, h.logging, d)) ∧
      outcome.2.2.working = working := by
  have stands := h.stands stays
  refine ⟨⟨fun written => ?_, ?_⟩, fun d env s here => ?_⟩
  · rw [or_iff_not_imp_left]
    intro reported torn
    obtain ⟨paths, reported⟩ := Option.ne_none_iff_exists'.mp reported
    obtain ⟨f, files, _⟩ := (written paths reported).access
    rw [Logger.files, stands.silent torn] at files
    cases files
  · rintro (unset | whole) paths reported
    · cases unset.symm.trans reported
    · exact stands.writes whole paths reported
  · subst here
    have ends := setUp_ends d env h.logging s
    refine ⟨fun _ => ends.through_files, fun _ => ends.reports, fun _ => ends.failed,
      ends.torn_files, ?_, ends.working_eq⟩
    intro paths reported unforced
    simp only [setUp, reported, unforced]
    rfl

/-- A call that cannot find its directory and one that is not forced leave what was set up. -/
theorem reported_after_calls_refused_and_unforced :
    let d : Disk := ⟨[(["m"], .directory)], [], ⟨1, []⟩, ⟨1, []⟩, [], []⟩
    let asks (directory : String) (force : Bool) : Setup :=
      { Setup.usual with directory := some directory, force }
    let first : History := .call .start d [] (asks "m" false)
    let second : History := .call first d [] (asks "~x" true)
    second.StaysIn [] ∧ second.logging.paths = some (pathsIn ⟨0, ["m"]⟩) ∧
      second.logging.loggers.WriteTo [] (pathsIn ⟨0, ["m"]⟩) ∧
      second.logging.setUp d [] (asks "l" false) =
        (.ok (pathsIn ⟨0, ["m"]⟩), second.logging, d) := by
  intro d asks first second
  have stays : second.StaysIn [] := ⟨⟨trivial, rfl⟩, rfl⟩
  have done : (History.start.logging.setUp d [] (asks "m" false)).1 =
      .ok (pathsIn ⟨0, ["m"]⟩) := by decide +kernel
  have noHome : directory d [] (asks "~x" true) = .error .noHome := by decide +kernel
  have failed : (first.logging.setUp d [] (asks "~x" true)).1 = .error .noHome := by decide +kernel
  obtain ⟨_, one⟩ := reported_after_calls .start trivial
  obtain ⟨_, reports, _, stops, _⟩ := one d [] (asks "m" false) rfl
  have whole : ¬ first.Torn := by
    rintro (torn | ⟨torn, _⟩)
    · obtain ⟨_, _, _, refused, _⟩ := stops torn
      cases refused.symm.trans done
    · exact torn
  obtain ⟨_, two⟩ := reported_after_calls first stays.1
  have unopened : ¬ StopsBetween d [] first.logging (asks "~x" true) := by
    rintro ⟨_, _, _, _, opens, _⟩
    cases opens.directory.symm.trans noHome
  obtain ⟨_, _, refused, _⟩ := two d [] (asks "~x" true) rfl
  have same : second.logging = first.logging := (refused _ failed).2 unopened
  have reported : second.logging.paths = some (pathsIn ⟨0, ["m"]⟩) := same ▸ reports _ done
  obtain ⟨written, three⟩ := reported_after_calls second stays
  obtain ⟨_, _, _, _, idle, _⟩ := three d [] (asks "l" false) rfl
  refine ⟨stays, reported, written.mpr (.inr ?_) _ reported, idle _ reported rfl⟩
  rintro (torn | ⟨torn, _⟩)
  · exact unopened torn
  · exact whole torn

/-- Where the second file's name is that of a directory, the root writes beside that directory and
the request lines are written nowhere, and the files of the call before are still reported. -/
theorem not_writeTo_after_failed_call :
    let d : Disk := ⟨[(["l"], .directory), (["l", "access.log"], .directory), (["m"], .directory)],
      [], ⟨1, []⟩, ⟨1, []⟩, [], []⟩
    let asks (directory : String) : Setup :=
      { Setup.usual with directory := some directory, force := true }
    let first := Logging.initial.setUp d [] (asks "/m")
    let second := first.2.1.setUp first.2.2 [] (asks "/l")
    first.1 = .ok (pathsIn ⟨1, ["m"]⟩) ∧
      (first.2.1.loggers accessName).files = [⟨["m", "access.log"], 1000000, 3⟩] ∧
      second.1 = .error (.access .isDirectory "/l/access.log") ∧
      second.2.1.paths = some (pathsIn ⟨1, ["m"]⟩) ∧
      (second.2.1.loggers []).files = [⟨["l", "tabbridge.log"], 1000000, 3⟩] ∧
      (second.2.1.loggers accessName).sinks = [] ∧
      ¬ second.2.1.loggers.WriteTo [] (pathsIn ⟨1, ["m"]⟩) := by
  intro d asks first second
  have silent : (second.2.1.loggers accessName).sinks = [] := by decide +kernel
  refine ⟨by decide +kernel, by decide +kernel, by decide +kernel, by decide +kernel,
    by decide +kernel, silent, fun written => ?_⟩
  obtain ⟨f, files, _⟩ := written.access
  rw [Logger.files, silent] at files
  cases files

end Logging

end OpenDocs.Log
