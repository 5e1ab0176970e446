import OpenDocs.Proofs.Log.Loggers
import OpenDocs.Proofs.Log.RollingFile

/-!
# How a call that sets up logging ends

A call has nothing to do, or it fails before it has changed anything, or it stops between its two
files, or it goes through. Which of the last three it is depends on what it can open.
-/

namespace OpenDocs.Log.Logging

def pathsIn (target : Disk.Path) : Paths :=
  ⟨target.join ⟨0, ["tabbridge.log"]⟩, target.join ⟨0, ["access.log"]⟩⟩

variable {d d' between : Disk} {env : Settings.Environment} {g : Logging} {s : Setup}
  {target target' : Disk.Path} {application application' : RollingFile}
  {outcome : Except Disk.Fault Paths × Logging × Disk}

/-- The call is forced or none has gone through before; the directory is there or can be made; and
the application's file is opened in it. -/
structure OpensFirst (d : Disk) (env : Settings.Environment) (g : Logging) (s : Setup)
    (target : Disk.Path) (application : RollingFile) (between : Disk) : Prop where
  proceeds : g.paths = none ∨ s.force = true
  directory : directory d env s = .ok target
  opened : ∃ made, (Disk.makeDirectories target).run.run d = (.ok (), made) ∧
    openRolling made (pathsIn target).application s.maxBytes s.backups = .ok (application, between)

/-- The first file is opened and the second cannot be. -/
def StopsBetween (d : Disk) (env : Settings.Environment) (g : Logging) (s : Setup) : Prop :=
  ∃ target application between fault, OpensFirst d env g s target application between ∧
    openRolling between (pathsIn target).access s.maxBytes s.backups = .error fault

/-- Both files are opened. -/
def GoesThrough (d : Disk) (env : Settings.Environment) (g : Logging) (s : Setup)
    (target : Disk.Path) : Prop :=
  ∃ application between access d', OpensFirst d env g s target application between ∧
    openRolling between (pathsIn target).access s.maxBytes s.backups = .ok (access, d')

/-- What a call returns and leaves. -/
inductive Ends (d : Disk) (env : Settings.Environment) (g : Logging) (s : Setup) :
    Except Disk.Fault Paths × Logging × Disk → Prop
  /-- Logging is set up, and the call is not forced. -/
  | idle {paths : Paths} :
      g.paths = some paths → s.force = false → Ends d env g s (.ok paths, g, d)
  /-- Not even the first file can be opened. -/
  | refused {fault : Disk.Fault} {d' : Disk} :
      (∀ target application between, ¬ OpensFirst d env g s target application between) →
      d'.working = d.working → Ends d env g s (.error fault, g, d')
  /-- The root has its new file by now, and the request lines have lost theirs. -/
  | torn {target : Disk.Path} {application : RollingFile} {between : Disk} {fault : Disk.Fault} :
      OpensFirst d env g s target application between →
      openRolling between (pathsIn target).access s.maxBytes s.backups = .error fault →
      Ends d env g s (.error fault,
        { g with loggers := dropAccessSinks (s.setRoot g.loggers application) }, between)
  | through {target : Disk.Path} {application access : RollingFile} {between d' : Disk} :
      OpensFirst d env g s target application between →
      openRolling between (pathsIn target).access s.maxBytes s.backups = .ok (access, d') →
      Ends d env g s (.ok (pathsIn target),
        ⟨s.loggers g.loggers application access, some (pathsIn target)⟩, d')

theorem working_makeDirectories (d : Disk) (p : Disk.Path) :
    ((Disk.makeDirectories p).run.run d).2.working = d.working :=
  (Disk.ensureDirectories_keeps d p.slashes p.names).working

theorem OpensFirst.working_eq (opens : OpensFirst d env g s target application between) :
    between.working = d.working := by
  obtain ⟨_, _, made, run, opened⟩ := opens
  have same := working_makeDirectories d target
  rw [run] at same
  exact (openRolling_eq_ok opened).2.2.working.trans same

theorem OpensFirst.opened_eq {made : Disk} (directory : Log.directory d env s = .ok target)
    (run : (Disk.makeDirectories target).run.run d = (.ok (), made))
    (opens : OpensFirst d env g s target' application between) :
    openRolling made (pathsIn target).application s.maxBytes s.backups =
      .ok (application, between) := by
  obtain ⟨_, directory', made', run', opened⟩ := opens
  obtain rfl := Except.ok.inj (directory'.symm.trans directory)
  obtain ⟨-, rfl⟩ := Prod.mk.inj (run'.symm.trans run)
  exact opened

theorem OpensFirst.unique {between' : Disk}
    (first : OpensFirst d env g s target application between)
    (second : OpensFirst d env g s target' application' between') :
    target' = target ∧ application' = application ∧ between' = between := by
  obtain ⟨_, directory, _, run, opened⟩ := first
  exact ⟨Except.ok.inj (second.directory.symm.trans directory),
    Prod.mk.inj (Except.ok.inj ((second.opened_eq directory run).symm.trans opened))⟩

theorem setUpIn_ends {made : Disk} (proceeds : g.paths = none ∨ s.force = true)
    (directory : Log.directory d env s = .ok target)
    (run : (Disk.makeDirectories target).run.run d = (.ok (), made)) :
    Ends d env g s (g.setUpIn made s target) := by
  rw [setUpIn]
  split
  · next fault failed =>
    have same := working_makeDirectories d target
    rw [run] at same
    refine .refused (fun _ _ _ opens => ?_) same
    cases failed.symm.trans (opens.opened_eq directory run)
  · next application between opened =>
    have opens : OpensFirst d env g s target application between :=
      ⟨proceeds, directory, made, run, opened⟩
    split
    · next failed => exact .torn opens failed
    · next opened' => exact .through opens opened'

theorem setUp_go_ends (proceeds : g.paths = none ∨ s.force = true) :
    Ends d env g s (setUp.go d env g s) := by
  rw [setUp.go]
  split
  · next failed =>
    refine .refused (fun _ _ _ opens => ?_) rfl
    cases failed.symm.trans opens.directory
  · next target directory =>
    split
    · next made run =>
      have same := working_makeDirectories d target
      rw [run] at same
      refine .refused (fun _ _ _ opens => ?_) same
      -- It is this directory that the first file would be opened in.
      obtain ⟨_, directory', _, run', _⟩ := opens
      obtain rfl := Except.ok.inj (directory'.symm.trans directory)
      cases run.symm.trans run'
    · next made run => exact setUpIn_ends proceeds directory run

theorem setUp_ends (d : Disk) (env : Settings.Environment) (g : Logging) (s : Setup) :
    Ends d env g s (g.setUp d env s) := by
  rw [setUp]
  cases reported : g.paths with
  | none => exact setUp_go_ends (.inl reported)
  | some paths =>
    cases forced : s.force with
    | true => exact setUp_go_ends (.inr forced)
    | false => exact .idle reported forced

theorem not_opensFirst {paths : Paths} (reported : g.paths = some paths)
    (unforced : s.force = false) : ¬ OpensFirst d env g s target application between := by
  intro opens
  rcases opens.proceeds with unset | forced
  · cases unset.symm.trans reported
  · cases forced.symm.trans unforced

theorem GoesThrough.not_stopsBetween (goes : GoesThrough d env g s target) :
    ¬ StopsBetween d env g s := by
  obtain ⟨_, _, _, _, opens, opened⟩ := goes
  rintro ⟨_, _, _, _, other, failed⟩
  obtain ⟨rfl, rfl, rfl⟩ := opens.unique other
  cases failed.symm.trans opened

theorem Ends.working_eq (ends : Ends d env g s outcome) :
    outcome.2.2.working = d.working := by
  cases ends with
  | idle _ _ => rfl
  | refused _ same => exact same
  | torn opens _ => exact opens.working_eq
  | through opens opened =>
    exact (openRolling_eq_ok opened).2.2.working.trans opens.working_eq

theorem Ends.reports {paths : Paths} (ends : Ends d env g s outcome)
    (ok : outcome.1 = .ok paths) : outcome.2.1.paths = some paths := by
  cases ends with
  | idle reported _ => exact Except.ok.inj ok ▸ reported
  | refused _ _ => cases ok
  | torn _ _ => cases ok
  | through _ _ => exact congrArg some (Except.ok.inj ok)

/-- A call that fails leaves everything as it was, or it stops between the files. -/
theorem Ends.failed {fault : Disk.Fault} (ends : Ends d env g s outcome)
    (failed : outcome.1 = .error fault) :
    outcome.2.1.paths = g.paths ∧ (¬ StopsBetween d env g s → outcome.2.1 = g) := by
  cases ends with
  | idle _ _ => cases failed
  | refused _ _ => exact ⟨rfl, fun _ => rfl⟩
  | torn opens refused => exact ⟨rfl, fun whole => absurd ⟨_, _, _, _, opens, refused⟩ whole⟩
  | through _ _ => cases failed

end OpenDocs.Log.Logging
