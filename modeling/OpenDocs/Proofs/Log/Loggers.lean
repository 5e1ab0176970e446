import OpenDocs.Log.Setup
import OpenDocs.Proofs.Log.Names

/-!
# Loggers that are set up

Setting up gives a level or sinks to the root, to the logger of request lines, to those of the server
and to the noisy ones, and leaves all others as they are. So the files that a record comes to follow
from the names around that of its logger, whatever has been set up before.
-/

namespace OpenDocs.Log

theorem Name.isWithin_cons {part : String} {n outer : Name} (other : part :: n ≠ outer) :
    Name.isWithin (part :: n) outer = n.isWithin outer := by
  rw [Bool.eq_iff_iff, Name.isWithin_iff, Name.isWithin_iff, List.suffix_cons_iff,
    or_iff_right other.symm]

/-! ### What setting up does to each logger -/

theorem foldl_modify {names : List Name} (distinct : names.Nodup) (f : Logger → Logger)
    (t : Loggers) (n : Name) :
    names.foldl (fun t m => t.modify m f) t n = if n ∈ names then f (t n) else t n := by
  induction names generalizing t with
  | nil => rfl
  | cons m names ih =>
    obtain ⟨fresh, distinct⟩ := List.nodup_cons.mp distinct
    rw [List.foldl_cons, ih distinct]
    by_cases same : n = m
    · subst same
      rw [if_neg fresh, if_pos List.mem_cons_self, Loggers.modify_self]
    · simp only [Loggers.modify_of_ne t f same, List.mem_cons, or_iff_right same]

/-- The loggers with the files that a call has opened. -/
def Setup.loggers (s : Setup) (t : Loggers) (application access : RollingFile) : Loggers :=
  s.setServer (s.setAccess (dropAccessSinks (s.setRoot t application)) access)

/-- Loggers are as they were at first, but for what setting up sets again. -/
structure Loggers.Fresh (t : Loggers) : Prop where
  root : (t []).propagates = true
  noisy {n : Name} : n ∈ noisyNames → (t n).propagates = true ∧ (t n).sinks = []
  other {n : Name} : n ≠ [] → n ≠ accessName → n ∉ serverNames → n ∉ noisyNames → t n = .unset

section

variable {s : Setup} {t : Loggers} {application access : RollingFile} {n : Name}

theorem setServer_apply (s : Setup) (t : Loggers) (n : Name) : s.setServer t n =
    if n ∈ noisyNames then { t n with level := noisyLevel s.level }
    else if n ∈ serverNames then ⟨s.level, true, []⟩ else t n := by
  have apart : n ∈ noisyNames → n ∉ serverNames := by
    revert n
    decide
  rw [Setup.setServer, foldl_modify (by decide), foldl_modify (by decide)]
  split
  · next noisy => rw [if_neg (apart noisy)]
  · rfl

theorem loggers_root : s.loggers t application access [] =
    ⟨s.level, (t []).propagates, ⟨.file application, .application, s.level⟩ :: s.consoleSinks⟩ :=
  rfl

theorem loggers_access : s.loggers t application access accessName =
    ⟨.info, false, ⟨.file access, .access, .info⟩ :: s.consoleSinks⟩ := by
  rfl

theorem loggers_server (listed : n ∈ serverNames) :
    s.loggers t application access n = ⟨s.level, true, []⟩ := by
  have quiet : n ∉ noisyNames := by
    revert n
    decide
  rw [Setup.loggers, setServer_apply, if_neg quiet, if_pos listed]

theorem setRoot_of_ne (inner : n ≠ []) (apart : n ≠ accessName) :
    dropAccessSinks (s.setRoot t application) n = t n := by
  rw [dropAccessSinks, Setup.setRoot, Loggers.modify_of_ne _ _ apart,
    Loggers.modify_of_ne _ _ inner]

theorem setAccess_of_ne (inner : n ≠ []) (apart : n ≠ accessName) :
    s.setAccess (dropAccessSinks (s.setRoot t application)) access n = t n := by
  rw [Setup.setAccess, Loggers.modify_of_ne _ _ apart, setRoot_of_ne inner apart]

theorem ne_of_noisy (noisy : n ∈ noisyNames) : n ≠ [] ∧ n ≠ accessName := by
  revert n
  decide

theorem loggers_noisy (fresh : t.Fresh) (noisy : n ∈ noisyNames) :
    s.loggers t application access n = ⟨noisyLevel s.level, true, []⟩ := by
  have others := ne_of_noisy noisy
  obtain ⟨propagates, sinks⟩ := fresh.noisy noisy
  rw [Setup.loggers, setServer_apply, if_pos noisy, setAccess_of_ne others.1 others.2]
  simp only [propagates, sinks]

theorem loggers_other (fresh : t.Fresh) (inner : n ≠ []) (apart : n ≠ accessName)
    (unserved : n ∉ serverNames) (quiet : n ∉ noisyNames) :
    s.loggers t application access n = .unset := by
  rw [Setup.loggers, setServer_apply, if_neg quiet, if_neg unserved, setAccess_of_ne inner apart,
    fresh.other inner apart unserved quiet]

/-! ### What earlier calls leave -/

theorem fresh_initial : Loggers.initial.Fresh where
  root := rfl
  noisy {n} noisy := by
    revert n
    decide
  other inner _ _ _ := by
    obtain ⟨part, outer, rfl⟩ := List.exists_cons_of_ne_nil inner
    rfl

/-- So it is also where the second file could not be opened. -/
theorem Loggers.Fresh.setRoot (fresh : t.Fresh) (s : Setup) (application : RollingFile) :
    (dropAccessSinks (s.setRoot t application)).Fresh where
  root := fresh.root
  noisy noisy := by
    have others := ne_of_noisy noisy
    rw [setRoot_of_ne others.1 others.2]
    exact fresh.noisy noisy
  other inner apart unserved quiet := by
    rw [setRoot_of_ne inner apart]
    exact fresh.other inner apart unserved quiet

theorem Loggers.Fresh.loggers (fresh : t.Fresh) (s : Setup) (application access : RollingFile) :
    (s.loggers t application access).Fresh where
  root := by rw [loggers_root, fresh.root]
  noisy listed := by rw [loggers_noisy fresh listed]; exact ⟨rfl, rfl⟩
  other inner apart unserved quiet := loggers_other fresh inner apart unserved quiet

/-- Loggers are set up as if for the first time. -/
theorem Loggers.Fresh.loggers_eq (fresh : t.Fresh) (s : Setup)
    (application access : RollingFile) :
    s.loggers t application access = s.loggers .initial application access := by
  funext n
  by_cases inner : n = []
  · subst inner
    rw [loggers_root, loggers_root, fresh.root]
    rfl
  by_cases apart : n = accessName
  · subst apart
    rw [loggers_access, loggers_access]
  by_cases served : n ∈ serverNames
  · rw [loggers_server served, loggers_server served]
  by_cases noisy : n ∈ noisyNames
  · rw [loggers_noisy fresh noisy, loggers_noisy fresh_initial noisy]
  · rw [loggers_other fresh inner apart served noisy,
      loggers_other fresh_initial inner apart served noisy]

/-! ### The level and the sinks that a name has -/

/-- The level that records have to reach, if they are no lines for requests. -/
def Setup.needed (s : Setup) (n : Name) : Level :=
  if noisyNames.any n.isWithin then noisyLevel s.level else s.level

theorem any_isWithin_cons {part : String} {outer : Name} (quiet : part :: outer ∉ noisyNames) :
    noisyNames.any (Name.isWithin (part :: outer)) = noisyNames.any outer.isWithin := by
  rw [Bool.eq_iff_iff, List.any_eq_true, List.any_eq_true]
  refine exists_congr fun m => and_congr_right fun listed => ?_
  rw [Name.isWithin_cons fun same => quiet (same ▸ listed)]

theorem needed_cons {part : String} {outer : Name} (quiet : part :: outer ∉ noisyNames) :
    s.needed (part :: outer) = s.needed outer := by
  rw [Setup.needed, any_isWithin_cons quiet, Setup.needed]

theorem noisyLevel_ne_zero (l : Level) : noisyLevel l ≠ 0 :=
  Int.ne_of_gt (Int.lt_of_lt_of_le (by decide : (0 : Level) < .warning) (Int.le_max_left _ l))

theorem needed_of_noisy (noisy : n ∈ noisyNames) :
    n.isWithin accessName = false ∧ s.needed n = noisyLevel s.level := by
  have around : n.isWithin accessName = false ∧ noisyNames.any n.isWithin = true := by
    revert n
    decide
  exact ⟨around.1, if_pos around.2⟩

theorem needed_of_served (served : n ∈ serverNames) :
    n.isWithin accessName = false ∧ s.needed n = s.level := by
  have around : n.isWithin accessName = false ∧ ¬ noisyNames.any n.isWithin = true := by
    revert n
    decide
  exact ⟨around.1, if_neg around.2⟩

/-- The level comes from the nearest name outward that has one. -/
theorem threshold_loggers (fresh : t.Fresh) (n : Name) :
    (s.loggers t application access).threshold n =
      if n.isWithin accessName then .info else s.needed n := by
  induction n with
  | nil => rfl
  | cons part outer ih =>
    rw [Loggers.threshold]
    by_cases apart : part :: outer = accessName
    · rw [apart, loggers_access]
      rfl
    by_cases noisy : part :: outer ∈ noisyNames
    · obtain ⟨unheard, needed⟩ := needed_of_noisy noisy
      rw [loggers_noisy fresh noisy, unheard, needed]
      exact if_neg (noisyLevel_ne_zero s.level)
    rw [Name.isWithin_cons apart, needed_cons noisy]
    by_cases served : part :: outer ∈ serverNames
    · obtain ⟨unheard, needed⟩ := needed_of_served (s := s) served
      rw [Name.isWithin_cons apart] at unheard
      rw [needed_cons noisy] at needed
      rw [loggers_server served, ih, unheard, needed]
      simp
    · rw [loggers_other fresh (List.cons_ne_nil part outer) apart served noisy, ih]
      rfl

/-- Lines for requests go to their own file only, and all other records to the application's. -/
theorem sinks_loggers (fresh : t.Fresh) (n : Name) : (s.loggers t application access).sinks n =
    (if n.isWithin accessName then ⟨.file access, .access, .info⟩
      else ⟨.file application, .application, s.level⟩) :: s.consoleSinks := by
  induction n with
  | nil => rfl
  | cons part outer ih =>
    rw [Loggers.sinks]
    by_cases apart : part :: outer = accessName
    · rw [apart, loggers_access]
      exact List.append_nil _
    have inherits : (s.loggers t application access (part :: outer)).propagates = true ∧
        (s.loggers t application access (part :: outer)).sinks = [] := by
      by_cases noisy : part :: outer ∈ noisyNames
      · rw [loggers_noisy fresh noisy]
        exact ⟨rfl, rfl⟩
      by_cases served : part :: outer ∈ serverNames
      · rw [loggers_server served]
        exact ⟨rfl, rfl⟩
      · rw [loggers_other fresh (List.cons_ne_nil part outer) apart served noisy]
        exact ⟨rfl, rfl⟩
    rw [Name.isWithin_cons apart, ← ih]
    simp only [inherits, List.nil_append, if_true]

/-! ### The files that records come to -/

def Sink.file? (sink : Sink) : Option RollingFile :=
  match sink.target with
  | .file f => some f
  | .console => none

/-- The files that a record of a level comes to. -/
def Loggers.files (t : Loggers) (n : Name) (v : Level) : List RollingFile :=
  (t.reached n v).filterMap Sink.file?

theorem level_le_needed (s : Setup) (n : Name) : s.level ≤ s.needed n := by
  rw [Setup.needed]
  split
  · exact Int.le_max_right _ _
  · exact Int.le_refl _

theorem reached_loggers (fresh : t.Fresh) (n : Name) {v : Level} (urgent : 0 < v) :
    (s.loggers t application access).reached n v =
      if n.isWithin accessName then
        if .info ≤ v then
          ⟨.file access, .access, .info⟩ :: s.consoleSinks.filter (·.level ≤ v) else []
      else if s.needed n ≤ v then
        ⟨.file application, .application, s.level⟩ :: s.consoleSinks.filter (·.level ≤ v) else [] := by
  simp only [Loggers.reached, Loggers.passes, Loggers.sinksOrLast, threshold_loggers fresh,
    sinks_loggers fresh, urgent, List.isEmpty_cons, Bool.false_eq_true, if_false, Bool.true_and,
    decide_true, decide_eq_true_eq]
  by_cases requests : n.isWithin accessName = true
  · simp only [requests, if_true]
    split
    · next enough => exact List.filter_cons_of_pos (decide_eq_true enough)
    · rfl
  · simp only [requests, Bool.false_eq_true, if_false]
    split
    · next enough =>
      have enough' := Int.le_trans (level_le_needed s n) enough
      exact List.filter_cons_of_pos (decide_eq_true enough')
    · rfl

theorem target_of_mem_console {v : Level} {sink : Sink}
    (listed : sink ∈ s.consoleSinks.filter (·.level ≤ v)) : sink.target = .console := by
  have held := (List.mem_filter.mp listed).1
  rw [Setup.consoleSinks] at held
  split at held
  · rw [List.mem_singleton.mp held]
  · cases held

theorem files_loggers (fresh : t.Fresh) (n : Name) {v : Level} (urgent : 0 < v) :
    (s.loggers t application access).files n v =
      if n.isWithin accessName then if .info ≤ v then [access] else []
      else if s.needed n ≤ v then [application] else [] := by
  have silent : (s.consoleSinks.filter (·.level ≤ v)).filterMap Sink.file? = [] := by
    refine List.filterMap_eq_nil_iff.mpr fun sink listed => ?_
    rw [Sink.file?, target_of_mem_console listed]
  rw [Loggers.files, reached_loggers fresh n urgent]
  split <;> split
  · exact congrArg (access :: ·) silent
  · rfl
  · exact congrArg (application :: ·) silent
  · rfl

/-- The console takes nothing to the disk. -/
theorem disk_foldl_write {sinks : List Sink} (console : ∀ sink ∈ sinks, sink.target = .console)
    (r : Record) (o : Output) : (sinks.foldl (Output.write r) o).disk = o.disk := by
  induction sinks generalizing o with
  | nil => rfl
  | cons sink sinks ih =>
    obtain ⟨first, later⟩ := List.forall_mem_cons.mp console
    rw [List.foldl_cons, ih later, Output.write, first]

theorem disk_log_loggers (fresh : t.Fresh) (o : Output) {r : Record} (urgent : 0 < r.level) :
    (Output.log (s.loggers t application access) o r).disk =
      if r.logger.isWithin accessName then
        if .info ≤ r.level then access.append o.disk (r.line .access).toList else o.disk
      else if s.needed r.logger ≤ r.level then
        application.append o.disk (r.line .application).toList else o.disk := by
  rw [Output.log, reached_loggers fresh r.logger urgent]
  split <;> split
  · rw [List.foldl_cons, disk_foldl_write fun _ => target_of_mem_console]
    rfl
  · rfl
  · rw [List.foldl_cons, disk_foldl_write fun _ => target_of_mem_console]
    rfl
  · rfl

end

end OpenDocs.Log
