import OpenDocs.Proofs.Log.Calls

/-!
# Where records go once logging is set up

After a forced call that goes through, a record goes to one of two files or to none, by its level and
the name of its logger. What was set up before makes no difference, not even by a call that failed
half way.
-/

namespace OpenDocs.Log

namespace Logging

/-- What comes of a call: the loggers stay as they are, or they are left half set up because the
second file cannot be opened, or both files are opened and the loggers set up for them. -/
inductive Calls (g : Logging) (s : Setup) : Except Disk.Fault Paths × Logging × Disk → Prop
  | kept {result : Except Disk.Fault Paths} {d' : Disk} :
      (result.isOk → s.force = false) → Calls g s (result, g, d')
  | half {f : Disk.Fault} {application : RollingFile} {d' : Disk} :
      Calls g s
        (.error f, { g with loggers := dropAccessSinks (s.setRoot g.loggers application) }, d')
  | done {paths : Paths} {application access : RollingFile} {d' : Disk} :
      Calls g s (.ok paths, ⟨s.loggers g.loggers application access, some paths⟩, d')

/-- The states of logging that calls lead to, on whatever disks and whatever comes of them. -/
inductive Called : Logging → Prop
  | initial : Called .initial
  | call {g : Logging} (d : Disk) (env : Settings.Environment) (s : Setup) :
      Called g → Called (g.setUp d env s).2.1

variable {d d' : Disk} {env : Settings.Environment} {g g' : Logging} {s : Setup} {paths : Paths}

theorem Ends.calls {outcome : Except Disk.Fault Paths × Logging × Disk}
    (ends : Ends d env g s outcome) : Calls g s outcome := by
  cases ends with
  | idle _ unforced => exact .kept fun _ => unforced
  | refused _ _ => exact .kept nofun
  | torn _ _ => exact .half
  | through _ _ => exact .done

theorem Calls.fresh {outcome : Except Disk.Fault Paths × Logging × Disk} (calls : Calls g s outcome)
    (fresh : g.loggers.Fresh) : outcome.2.1.loggers.Fresh := by
  cases calls with
  | kept _ => exact fresh
  | half => exact fresh.setRoot s _
  | done => exact fresh.loggers s _ _

theorem Called.fresh (called : Called g) : g.loggers.Fresh := by
  induction called with
  | initial => exact fresh_initial
  | call d env s _ ih => exact (setUp_ends d env _ s).calls.fresh ih

/-- The files of a directory are opened, that of the application first. -/
structure Opens (d : Disk) (s : Setup) (target : Disk.Path) (application access : RollingFile)
    (between d' : Disk) : Prop where
  application : openRolling d (target.join ⟨0, ["tabbridge.log"]⟩) s.maxBytes s.backups =
    .ok (application, between)
  access : openRolling between (target.join ⟨0, ["access.log"]⟩) s.maxBytes s.backups =
    .ok (access, d')

theorem setUpIn_eq_ok_iff {target : Disk.Path} : g.setUpIn d s target = (.ok paths, g', d') ↔
    ∃ application access between, Opens d s target application access between d' ∧
      paths = pathsIn target ∧ g' = ⟨s.loggers g.loggers application access, some paths⟩ := by
  rw [setUpIn]
  constructor
  · intro done
    split at done
    · cases done
    · next application between first =>
      split at done
      · cases done
      · next access last second =>
        cases done
        exact ⟨application, access, between, ⟨first, second⟩, rfl, rfl⟩
  · rintro ⟨application, access, between, ⟨first, second⟩, rfl, rfl⟩
    simp only [first, second]
    rfl

theorem setUp_eq_ok_iff (forced : s.force = true) : g.setUp d env s = (.ok paths, g', d') ↔
    ∃ target made, directory d env s = .ok target ∧
      (Disk.makeDirectories target).run.run d = (.ok (), made) ∧
      g.setUpIn made s target = (.ok paths, g', d') := by
  have goes : g.setUp d env s = setUp.go d env g s := by
    rw [setUp]
    split
    · rw [if_pos forced]
    · rfl
  rw [goes, setUp.go]
  constructor
  · intro done
    split at done
    · cases done
    · next target directory =>
      split at done
      · cases done
      · next made run => exact ⟨target, made, directory, run, done⟩
  · rintro ⟨target, made, directory, run, done⟩
    simp only [directory, run, done]

/-- A forced call does the same whatever was set up before. -/
theorem setUp_of_called {g₂ : Logging} (called : Called g) (called₂ : Called g₂)
    (forced : s.force = true) (done : g.setUp d env s = (.ok paths, g', d')) :
    g₂.setUp d env s = (.ok paths, g', d') := by
  obtain ⟨target, made, directory, run, done⟩ := (setUp_eq_ok_iff forced).mp done
  obtain ⟨application, access, between, opens, named, rfl⟩ := setUpIn_eq_ok_iff.mp done
  refine (setUp_eq_ok_iff forced).mpr ⟨target, made, directory, run, ?_⟩
  refine setUpIn_eq_ok_iff.mpr ⟨application, access, between, opens, named, ?_⟩
  rw [called.fresh.loggers_eq, called₂.fresh.loggers_eq]

/-! ### The two files -/

theorem place_of_resolve {target : Disk.Path} {name : String} {place : List String}
    (plain : name ≠ "..") (resolved : d.resolve (target.join ⟨0, [name]⟩) = .ok (.ofNames place)) :
    place = Disk.settle ((if target.isAbsolute then [] else d.working) ++ target.names) ++
      [name] := by
  obtain ⟨_, same⟩ := Disk.resolve_eq_ok_iff.mp resolved
  rw [← Disk.settle_append_of_down (List.forall_mem_singleton.mpr plain), List.append_assoc]
  exact congrArg Disk.Path.names same

/-- Two files lie beside each other, under the names that records and lines for requests have. -/
structure Beside (directory : List String) (application access : RollingFile) : Prop where
  application : application.place = directory ++ ["tabbridge.log"]
  access : access.place = directory ++ ["access.log"]

section

variable {target : Disk.Path} {application access : RollingFile} {between : Disk}
  {directory : List String}

theorem Opens.beside (opens : Opens d s target application access between d') :
    ∃ directory, Beside directory application access := by
  obtain ⟨resolved, _, agrees⟩ := openRolling_eq_ok opens.application
  obtain ⟨resolved', _, _⟩ := openRolling_eq_ok opens.access
  refine ⟨_, place_of_resolve (by decide) resolved, ?_⟩
  rw [← agrees.working]
  exact place_of_resolve (by decide) resolved'

theorem Beside.apart (beside : Beside directory application access) :
    application.place ≠ access.place := by
  rw [beside.application, beside.access]
  intro same
  exact absurd (List.append_cancel_left same) (by decide)

/-- A file and its backups lie apart from the other file. -/
theorem Beside.append_application (beside : Beside directory application access) (d : Disk)
    (line : List Char) : (application.append d line).lookup access.place = d.lookup access.place :=
  lookup_append beside.apart.symm
    (fun n => beside.access ▸ ne_backup beside.application (by decide) n) line

theorem Beside.append_access (beside : Beside directory application access) (d : Disk)
    (line : List Char) :
    (access.append d line).lookup application.place = d.lookup application.place :=
  lookup_append beside.apart
    (fun n => beside.application ▸ ne_backup beside.access (by decide) n) line

theorem mem_files_application (beside : Beside directory application access) {t : Loggers}
    (fresh : t.Fresh) (n : Name) {v : Level} (urgent : 0 < v) :
    application ∈ (s.loggers t application access).files n v ↔
      n.isWithin accessName = false ∧ s.needed n ≤ v := by
  have other : application ≠ access := fun same => beside.apart (congrArg _ same)
  rw [files_loggers fresh n urgent]
  cases n.isWithin accessName <;> split <;> simp_all

theorem mem_files_access (beside : Beside directory application access) {t : Loggers}
    (fresh : t.Fresh) (n : Name) {v : Level} (urgent : 0 < v) :
    access ∈ (s.loggers t application access).files n v ↔
      n.isWithin accessName = true ∧ .info ≤ v := by
  have other : access ≠ application := fun same => beside.apart (congrArg _ same).symm
  rw [files_loggers fresh n urgent]
  cases n.isWithin accessName <;> split <;> simp_all

/-- If a line comes to a file, it is added at its end, and nothing but what was there stands before
it. If not, the file stays as it is. -/
structure Keeps (f : RollingFile) (comes : Prop) (line : String) (d d' : Disk) : Prop where
  gains : comes → ∃ before, (before = f.bytes d ∨ before = []) ∧
    d'.lookup f.place = some (.file (before ++ Encoding.Utf8.encode line.toList))
  stays : ¬ comes → d'.lookup f.place = d.lookup f.place

theorem Keeps.of_append {f : RollingFile} (inside : f.place ≠ []) {comes : Prop} (came : comes)
    (line : String) (d : Disk) : Keeps f comes line d (f.append d line.toList) :=
  ⟨fun _ => lookup_append_self d inside line.toList, fun none_ => absurd came none_⟩

theorem Keeps.of_lookup {f : RollingFile} {comes : Prop} (none_ : ¬ comes) {line : String}
    (same : d'.lookup f.place = d.lookup f.place) : Keeps f comes line d d' :=
  ⟨fun came => absurd came none_, fun _ => same⟩

theorem Beside.inside (beside : Beside directory application access) :
    application.place ≠ [] ∧ access.place ≠ [] := by
  rw [beside.application, beside.access]
  exact ⟨List.concat_ne_nil _ _, List.concat_ne_nil _ _⟩

/-- A record changes the file that it comes to, and only that one. -/
theorem keeps_of_log (beside : Beside directory application access) {t : Loggers}
    (fresh : t.Fresh) (o : Output) {r : Record} (urgent : 0 < r.level) :
    let after := s.loggers t application access
    Keeps application (application ∈ after.files r.logger r.level) (r.line .application) o.disk
        (Output.log after o r).disk ∧
      Keeps access (access ∈ after.files r.logger r.level) (r.line .access) o.disk
        (Output.log after o r).disk := by
  simp only [mem_files_application beside fresh r.logger urgent,
    mem_files_access beside fresh r.logger urgent, disk_log_loggers fresh o urgent]
  cases requests : r.logger.isWithin accessName with
  | true =>
    simp only [if_true]
    split
    · next enough =>
      exact ⟨.of_lookup (by simp) (beside.append_access o.disk _),
        .of_append beside.inside.2 ⟨trivial, enough⟩ _ o.disk⟩
    · next low => exact ⟨.of_lookup (by simp) rfl, .of_lookup (by simp [low]) rfl⟩
  | false =>
    simp only [Bool.false_eq_true, if_false]
    split
    · next enough =>
      exact ⟨.of_append beside.inside.1 ⟨trivial, enough⟩ _ o.disk,
        .of_lookup (by simp) (beside.append_application o.disk _)⟩
    · next low => exact ⟨.of_lookup (by simp [low]) rfl, .of_lookup (by simp) rfl⟩

end

/-! ### A call that goes through -/

/-- A name without two dots in a row is taken apart in one way. -/
theorem written_accessName (known : List String) :
    accessName = Name.ofString known "tabbridge.access" := by
  simp [accessName, Name.ofString, Name.partsBack]

theorem isWithin_accessName {known : List String} {name : String} :
    (Name.ofString known name).isWithin accessName = true ↔
      Name.Below known name "tabbridge.access" := by
  rw [written_accessName known, Name.isWithin_ofString_iff (by decide) (by decide)]

theorem needed_le_iff {known : List String} {name : String} {v : Level} :
    s.needed (Name.ofString known name) ≤ v ↔ s.level ≤ v ∧
      ((∃ outer ∈ ["asyncio", "httpx", "uvicorn.access"], Name.Below known name outer) →
        .warning ≤ v) := by
  have named : ∀ outer ∈ ["asyncio", "httpx", "uvicorn.access"],
      ¬ (outer = "" ∨ outer = "root") ∧ outer.toList.getLast? ≠ some '.' := by decide
  have noisy : noisyNames.any (Name.ofString known name).isWithin = true ↔
      ∃ outer ∈ ["asyncio", "httpx", "uvicorn.access"], Name.Below known name outer := by
    have written : noisyNames =
        ["asyncio", "httpx", "uvicorn.access"].map (Name.ofString known) := by
      simp [noisyNames, Name.ofString, Name.partsBack]
    rw [written, List.any_map, List.any_eq_true]
    exact exists_congr fun outer => and_congr_right fun listed =>
      Name.isWithin_ofString_iff (named outer listed).1 (named outer listed).2
  rw [Setup.needed, ← noisy]
  split
  · next talks => simp only [talks, true_implies, noisyLevel, Int.max_le, and_comm]
  · next quiet => exact (and_iff_left fun talks => absurd talks quiet).symm

theorem resolve_of_working (same : d'.working = d.working) (p : Disk.Path) :
    d'.resolve p = d.resolve p := by
  rw [Disk.resolve, same, Disk.resolve]

end Logging

end OpenDocs.Log
