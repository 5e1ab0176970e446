import OpenDocs.Proofs.Server.Steps
import Mathlib.Data.List.Chain

/-!
# The life of a controller

A controller is stopped or running, and goes from one to the other when a start succeeds or a
server is ended. Every server that was ever launched has run once and was told to exit, but for the
one in use, and each listener was told of all phases since it came.
-/

namespace OpenDocs.Server

/-- The phases that calls lead into, one after the other, when so many servers were asked for. Only
a start that succeeds and the end of a server that is in use lead into another phase. -/
def phases (succeeds : Nat → Bool) : Phase → Nat → List Call → List Phase
  | _, _, [] => []
  | .stopped, asked, .start :: rest =>
    if succeeds asked then .running :: phases succeeds .running (asked + 1) rest
    else phases succeeds .stopped (asked + 1) rest
  | .running, asked, .stop :: rest | .running, asked, .close :: rest =>
    .stopped :: phases succeeds .stopped asked rest
  | phase, asked, _ :: rest => phases succeeds phase asked rest

/-- The listener that a call brings. -/
def Call.listener? : Call → Option (Listener String)
  | listen l => some l
  | _ => none

namespace Controller

/-! ### Servers -/

/-- The servers are those that came of so many calls for one. Each has run once, and exactly the one
that is in use is not told to exit. -/
structure Accounted (factory : Nat → Launch) (calls : Nat) (servers : List Instance)
    (current : Option Nat) : Prop where
  launched : servers.map (·.leaves) = (List.range calls).filterMap fun n => (factory n).leaves?
  once : ∀ s ∈ servers, s.runs = 1
  serving : ∀ index s, servers[index]? = some s → (s.shouldExit = false ↔ current = some index)
  inUse : ∀ index ∈ current, index < servers.length

namespace Accounted

variable {factory : Nat → Launch} {calls : Nat} {servers : List Instance}

theorem nothing : Accounted factory 0 [] none := ⟨rfl, by simp, by simp, by simp⟩

theorem serving_of_none (exits : ∀ s ∈ servers, s.shouldExit = true) (index : Nat) (s : Instance)
    (found : servers[index]? = some s) : s.shouldExit = false ↔ none = some index := by
  simp [exits s (List.mem_of_getElem? found)]

theorem shouldExit (accounted : Accounted factory calls servers none) :
    ∀ s ∈ servers, s.shouldExit = true := by
  intro s met
  obtain ⟨index, found⟩ := List.mem_iff_getElem?.mp met
  simpa using accounted.serving index s found

theorem failed (accounted : Accounted factory calls servers none) :
    Accounted factory (calls + 1) (servers ++ (factory calls).leaves?.toList.map (⟨·, true, 1⟩))
      none := by
  refine ⟨?_, ?_, serving_of_none ?_, by simp⟩
  · rw [List.range_succ, List.filterMap_append, List.map_append, accounted.launched]
    cases found : (factory calls).leaves? <;> simp [found]
  · rw [List.forall_mem_append]
    exact ⟨accounted.once, List.forall_mem_map.mpr fun _ _ => rfl⟩
  · rw [List.forall_mem_append]
    exact ⟨accounted.shouldExit, List.forall_mem_map.mpr fun _ _ => rfl⟩

theorem started {up leaves : Bool} (accounted : Accounted factory calls servers none)
    (launch : factory calls = .server up leaves) :
    Accounted factory (calls + 1) (servers ++ [⟨leaves, false, 1⟩]) (some servers.length) := by
  refine ⟨?_, ?_, ?_, by simp⟩
  · rw [List.range_succ, List.filterMap_append, List.map_append, accounted.launched]
    simp [launch, Launch.leaves?]
  · rw [List.forall_mem_append]
    exact ⟨accounted.once, List.forall_mem_singleton.mpr rfl⟩
  · intro index s found
    rw [List.getElem?_append] at found
    by_cases old : index < servers.length
    · rw [if_pos old] at found
      have exits := accounted.shouldExit s (List.mem_of_getElem? found)
      simp [exits, Nat.ne_of_gt old]
    · rw [if_neg old] at found
      obtain ⟨inside, rfl⟩ := List.getElem?_eq_some_iff.mp found
      rw [List.length_singleton] at inside
      have last : servers.length = index := by omega
      simp [last]

theorem ended {used : Nat} (accounted : Accounted factory calls servers (some used)) :
    Accounted factory calls (tellToExit servers used) none := by
  refine ⟨?_, ?_, serving_of_none ?_, by simp⟩
  · rw [← accounted.launched, tellToExit]
    apply List.ext_getElem?
    intro index
    rw [List.getElem?_map, List.getElem?_map, List.getElem?_modify]
    cases servers[index]? with
    | none => rfl
    | some s => split <;> rfl
  · intro s met
    obtain ⟨index, found⟩ := List.mem_iff_getElem?.mp met
    rw [tellToExit, List.getElem?_modify] at found
    obtain ⟨old, held, rfl⟩ := Option.map_eq_some_iff.mp found
    have once := accounted.once old (List.mem_of_getElem? held)
    split <;> exact once
  · intro s met
    obtain ⟨index, found⟩ := List.mem_iff_getElem?.mp met
    rw [tellToExit, List.getElem?_modify] at found
    obtain ⟨old, held, rfl⟩ := Option.map_eq_some_iff.mp found
    have serves := accounted.serving index old held
    split
    · rfl
    · next other => simpa [other] using serves

end Accounted

theorem factory_call (c : Controller) (k : Call) : (c.call k).2.factory = c.factory := by
  have settled := congrArg factory (silent_call c k)
  exact settled.trans (next_keeps c k).1

theorem accounted_next {c : Controller} (k : Call)
    (accounted : Accounted c.factory c.calls c.servers c.current) :
    Accounted c.factory (c.next k).calls (c.next k).servers (c.next k).current := by
  generalize c.next k = d, step_next c k = step
  cases step with
  | alreadyRunning | alreadyStopped | watched => exact accounted
  | failed stopped _ =>
    rw [stopped] at accounted
    show Accounted _ _ _ c.current
    rw [stopped]
    exact accounted.failed
  | started stopped launch _ =>
    rw [stopped] at accounted
    exact accounted.started launch
  | ended _ running =>
    rw [running] at accounted
    exact accounted.ended

theorem accounted_call {c : Controller} (k : Call)
    (accounted : Accounted c.factory c.calls c.servers c.current) :
    Accounted c.factory (c.call k).2.calls (c.call k).2.servers (c.call k).2.current := by
  show Accounted c.factory (c.call k).2.silent.calls (c.call k).2.silent.servers
    (c.call k).2.silent.current
  rw [silent_call]
  exact accounted_next k accounted

theorem accounted_run {c : Controller} (calls : List Call)
    (accounted : Accounted c.factory c.calls c.servers c.current) :
    Accounted c.factory (c.run calls).calls (c.run calls).servers (c.run calls).current := by
  induction calls generalizing c with
  | nil => exact accounted
  | cons k rest ih =>
    have first := accounted_call k accounted
    rw [← factory_call c k] at first ⊢
    exact ih first

/-! ### Phases -/

/-- The phases that calls lead the controller into. -/
def history (c : Controller) (calls : List Call) : List Phase :=
  phases c.succeeds c.phase c.calls calls

theorem succeeds_call (c : Controller) (k : Call) : (c.call k).2.succeeds = c.succeeds := by
  have settled := congrArg succeeds (silent_call c k)
  obtain ⟨factory, timeout, _⟩ := next_keeps c k
  have kept : (c.next k).succeeds = c.succeeds := by
    funext n
    rw [succeeds, succeeds, factory, timeout]
  exact settled.trans kept

theorem phases_next (c : Controller) (k : Call) (rest : List Call) :
    phases c.succeeds c.phase c.calls (k :: rest) =
      (if (c.next k).phase = c.phase then [] else [(c.next k).phase]) ++
        phases c.succeeds (c.next k).phase (c.next k).calls rest := by
  generalize c.next k = d, step_next c k = step
  cases step with
  | alreadyRunning running =>
    rw [if_pos rfl, isRunning_iff.mp running]
    rfl
  | alreadyStopped which stopped =>
    rw [if_pos rfl, phase_of_none stopped]
    rcases which with rfl | rfl <;> rfl
  | failed stopped fails =>
    show _ = (if c.phase = c.phase then [] else [c.phase]) ++ phases c.succeeds c.phase _ rest
    rw [if_pos rfl, phase_of_none stopped, phases, if_neg (by simp [fails])]
    rfl
  | started stopped launch succeeds =>
    show _ = (if Phase.running = c.phase then [] else _) ++ phases c.succeeds .running _ rest
    rw [phase_of_none stopped, if_neg (by decide), phases, if_pos succeeds]
    rfl
  | ended which running =>
    show _ = (if Phase.stopped = c.phase then [] else _) ++ phases c.succeeds .stopped _ rest
    rw [phase_of_some running, if_neg (by decide)]
    rcases which with rfl | rfl <;> rfl
  | watched =>
    show _ = (if c.phase = c.phase then [] else [c.phase]) ++ phases c.succeeds c.phase _ rest
    rw [if_pos rfl]
    cases c.phase <;> rfl

theorem history_cons (c : Controller) (k : Call) (rest : List Call) :
    c.history (k :: rest) =
      (if (c.call k).2.phase = c.phase then [] else [(c.call k).2.phase]) ++
        (c.call k).2.history rest := by
  have calls : (c.call k).2.calls = (c.next k).calls := by
    have same := congrArg calls (silent_call c k)
    exact same
  rw [history, history, succeeds_call, calls, phase_call, phases_next]

theorem history_listen (c : Controller) (l : Listener String) (rest : List Call) :
    c.history (.listen l :: rest) = c.history rest := by
  rw [history, history]
  cases c.phase <;> rfl

theorem phase_run (c : Controller) (calls : List Call) :
    (c.run calls).phase = (c.history calls).getLast?.getD c.phase := by
  induction calls generalizing c with
  | nil =>
    rw [history, phases]
    rfl
  | cons k rest ih =>
    have later := ih (c.call k).2
    rw [history_cons]
    by_cases same : (c.call k).2.phase = c.phase
    · rw [if_pos same, List.nil_append, ← same]
      exact later
    · rw [if_neg same, List.singleton_append, List.getLast?_cons, Option.getD_some]
      exact later

theorem isChain_history (c : Controller) (calls : List Call) :
    (c.phase :: c.history calls).IsChain (· ≠ ·) := by
  induction calls generalizing c with
  | nil => cases c.phase <;> exact .singleton _
  | cons k rest ih =>
    have later := ih (c.call k).2
    rw [history_cons]
    by_cases same : (c.call k).2.phase = c.phase
    · rw [if_pos same, List.nil_append, ← same]
      exact later
    · rw [if_neg same, List.singleton_append]
      exact List.isChain_cons_cons.mpr ⟨Ne.symm same, later⟩

/-! ### Messages -/

theorem listeners_next (c : Controller) (k : Call) :
    (c.next k).listeners = c.listeners ++ k.listener?.toList := by
  generalize c.next k = d, step_next c k = step
  cases step with
  | alreadyRunning | failed | started => exact (List.append_nil _).symm
  | alreadyStopped which | ended which =>
    rcases which with rfl | rfl <;> exact (List.append_nil _).symm
  | watched => rfl

/-- What a call tells, and to which listeners by the order in which they came. -/
def telling (c : Controller) : Call → List (Nat × Phase)
  | .listen _ => [(c.listeners.length, c.phase)]
  | k => if (c.next k).phase = c.phase then []
    else (List.range c.listeners.length).map (·, (c.next k).phase)

def tellings (c : Controller) : List Call → List (Nat × Phase)
  | [] => []
  | k :: rest => c.telling k ++ (c.call k).2.tellings rest

/-- The messages tell these phases, each to the listener that came at this place. -/
def Tell (listeners : List (Listener String)) :
    List (Nat × Phase) → List (String × String) → Prop :=
  List.Forall₂ fun x message => ∃ l, listeners[x.1]? = some l ∧ message = (l.name, x.2.text)

/-- What one listener is told. -/
def toldTo (index : Nat) (tellings : List (Nat × Phase)) : List Phase :=
  (tellings.filter (·.1 = index)).map (·.2)

theorem toldTo_append (index : Nat) (first second : List (Nat × Phase)) :
    toldTo index (first ++ second) = toldTo index first ++ toldTo index second := by
  simp only [toldTo, List.filter_append, List.map_append]

theorem toldTo_everyone (index count : Nat) (p : Phase) :
    toldTo index ((List.range count).map (·, p)) = if index < count then [p] else [] := by
  induction count with
  | zero => rfl
  | succ count ih =>
    rw [List.range_succ, List.map_append, toldTo_append, ih]
    rcases Nat.lt_trichotomy index count with less | rfl | more
    · rw [if_pos less, if_pos (Nat.lt_succ_of_lt less)]
      simp [toldTo, Nat.ne_of_gt less]
    · simp [toldTo]
    · rw [if_neg (Nat.not_lt_of_gt more), if_neg (Nat.not_lt_of_ge more)]
      simp [toldTo, Nat.ne_of_lt more]

theorem Tell.more {listeners : List (Listener String)} {tellings : List (Nat × Phase)}
    {messages : List (String × String)} (tell : Tell listeners tellings messages)
    (new : List (Listener String)) : Tell (listeners ++ new) tellings messages := by
  refine tell.imp fun x message => ?_
  rintro ⟨l, found, same⟩
  have held := (List.getElem?_eq_some_iff.mp found).1
  exact ⟨l, (List.getElem?_append_left held).trans found, same⟩

theorem Tell.lt_length {listeners : List (Listener String)} {tellings : List (Nat × Phase)}
    {messages : List (String × String)} (tell : Tell listeners tellings messages) :
    ∀ x ∈ tellings, x.1 < listeners.length := by
  unfold Tell at tell
  induction tell with
  | nil => simp
  | cons found _ ih =>
    obtain ⟨l, held, _⟩ := found
    exact List.forall_mem_cons.mpr ⟨(List.getElem?_eq_some_iff.mp held).1, ih⟩

theorem tell_everyone (listeners : List (Listener String)) (p : Phase) :
    Tell listeners ((List.range listeners.length).map (·, p))
      ((listeners.map (·.name)).map (·, p.text)) := by
  unfold Tell
  rw [List.map_map, List.forall₂_map_left_iff, List.forall₂_map_right_iff, List.forall₂_iff_get]
  refine ⟨List.length_range, fun i _ inside => ?_⟩
  exact ⟨listeners[i], by simp, rfl⟩

theorem tell_telling {c : Controller} {k : Call}
    (willing : ∀ l ∈ c.audience k, ∀ text, l.refuses text = false) :
    ∃ messages, (c.call k).2.told = c.told ++ messages ∧
      Tell (c.call k).2.listeners (c.telling k) messages := by
  obtain ⟨log, same⟩ := (tells_call c k).state
  obtain ⟨_, _, told⟩ := next_keeps c k
  rw [tell_of_willing fun l held => willing l held _, told] at same
  refine ⟨_, by rw [same], ?_⟩
  rw [listeners_call, statusText_eq]
  cases k with
  | listen l =>
    refine .cons ⟨l, ?_, rfl⟩ .nil
    exact List.getElem?_concat_length
  | start | stop | close =>
    simp only [audience, heard, telling]
    split
    · exact .nil
    · rw [listeners_next]
      exact (tell_everyone c.listeners _).more _

theorem willing_audience {c : Controller} {k : Call}
    (willing : ∀ l ∈ c.listeners, ∀ text, l.refuses text = false)
    (new : ∀ l ∈ k.listener?, ∀ text, l.refuses text = false) :
    ∀ l ∈ c.audience k, ∀ text, l.refuses text = false := by
  cases k with
  | listen l => exact List.forall_mem_singleton.mpr (new l rfl)
  | start | stop | close =>
    simp only [audience, heard]
    split
    · simp
    · exact willing

theorem listeners_run (c : Controller) (calls : List Call) :
    (c.run calls).listeners = c.listeners ++ calls.filterMap Call.listener? := by
  induction calls generalizing c with
  | nil => exact (List.append_nil _).symm
  | cons k rest ih =>
    have later := ih (c.call k).2
    rw [listeners_call, listeners_next, List.append_assoc] at later
    cases k <;> exact later

/-- All that is told while calls are made is told by one of them. -/
theorem tell_tellings {c : Controller} {calls : List Call}
    (willing : ∀ l ∈ c.listeners, ∀ text, l.refuses text = false)
    (new : ∀ k ∈ calls, ∀ l ∈ k.listener?, ∀ text, l.refuses text = false) :
    ∃ messages, (c.run calls).told = c.told ++ messages ∧
      Tell (c.run calls).listeners (c.tellings calls) messages := by
  induction calls generalizing c with
  | nil => exact ⟨[], (List.append_nil _).symm, .nil⟩
  | cons k rest ih =>
    obtain ⟨own, others⟩ := List.forall_mem_cons.mp new
    obtain ⟨first, told, tells⟩ := tell_telling (willing_audience willing own)
    have willing' : ∀ l ∈ (c.call k).2.listeners, ∀ text, l.refuses text = false := by
      rw [listeners_call, listeners_next, List.forall_mem_append]
      exact ⟨willing, fun l held => own l (Option.mem_toList.mp held)⟩
    obtain ⟨messages, told', tells'⟩ := ih willing' others
    refine ⟨first ++ messages, ?_, ?_⟩
    · rw [← List.append_assoc, ← told]
      exact told'
    · refine List.rel_append ?_ tells'
      have all := listeners_run (c.call k).2 rest
      show Tell ((c.call k).2.run rest).listeners _ _
      rw [all]
      exact tells.more _

theorem toldTo_telling {c : Controller} {index : Nat} (k : Call)
    (known : index < c.listeners.length) : toldTo index (c.telling k) =
      if (c.call k).2.phase = c.phase then [] else [(c.call k).2.phase] := by
  rw [phase_call]
  cases k with
  | listen l =>
    have same : (c.next (.listen l)).phase = c.phase := rfl
    rw [if_pos same]
    simp [telling, toldTo, Nat.ne_of_gt known]
  | start | stop | close =>
    simp only [telling]
    split
    · rfl
    · rw [toldTo_everyone, if_pos known]

/-- A listener is told of all phases that calls lead into. -/
theorem toldTo_tellings {c : Controller} {index : Nat} (calls : List Call)
    (known : index < c.listeners.length) : toldTo index (c.tellings calls) = c.history calls := by
  induction calls generalizing c with
  | nil =>
    rw [history, phases]
    rfl
  | cons k rest ih =>
    have known' : index < (c.call k).2.listeners.length := by
      rw [listeners_call, listeners_next, List.length_append]
      exact Nat.lt_add_right _ known
    rw [tellings, toldTo_append, toldTo_telling k known, ih known', history_cons]

theorem run_append (c : Controller) (calls more : List Call) :
    c.run (calls ++ more) = (c.run calls).run more := List.foldl_append

theorem tellings_append (c : Controller) (calls more : List Call) :
    c.tellings (calls ++ more) = c.tellings calls ++ (c.run calls).tellings more := by
  induction calls generalizing c with
  | nil => rfl
  | cons k rest ih =>
    rw [List.cons_append, tellings, tellings, ih, List.append_assoc]
    rfl

/-- A listener is told of the phase that it finds, and of all phases after that. -/
theorem toldTo_of_listen {c : Controller} {before : List Call} (l : Listener String)
    (after : List Call) (earlier : ∀ x ∈ c.tellings before, x.1 < (c.run before).listeners.length) :
    toldTo (c.run before).listeners.length (c.tellings (before ++ .listen l :: after)) =
      (c.run before).phase :: (c.run before).history after := by
  have none : toldTo (c.run before).listeners.length (c.tellings before) = [] := by
    rw [toldTo, List.filter_eq_nil_iff.mpr, List.map_nil]
    intro x met
    simpa using Nat.ne_of_lt (earlier x met)
  rw [tellings_append, toldTo_append, none, List.nil_append]
  generalize c.run before = d
  have known : d.listeners.length < (d.call (.listen l)).2.listeners.length := by
    rw [listeners_call, listeners_next, List.length_append]
    exact Nat.lt_add_one _
  have same : (d.call (.listen l)).2.phase = d.phase := phase_call d (.listen l)
  have later := history_cons d (.listen l) after
  rw [if_pos same, List.nil_append, history_listen] at later
  rw [tellings, toldTo_append, toldTo_tellings after known, ← later]
  simp [telling, toldTo]

/-- After any calls a new controller is running if the last phase that they led into is that, by a
start that succeeded, and all its servers are accounted for. A start while it is running and a stop
while it is not are noted and change nothing; a start that fails leaves it stopped. What a call makes
of a controller is the same if nobody watches, and whoever refuses to be told is told of that
already. If nobody refuses, each message is for one of the listeners, and each of these is told of
the phase that it finds and of all phases after that, one in turn with the other, up to the last. -/
theorem run_lifecycle (address : String) (timeout : Seconds) (factory : Nat → Launch)
    (calls : List Call) :
    (((create address timeout factory).run calls).isRunning = true ↔
      (phases (fun n => (factory n).succeeds timeout) .stopped 0 calls).getLast? = some .running) ∧
    Accounted factory ((create address timeout factory).run calls).calls
      ((create address timeout factory).run calls).servers
      ((create address timeout factory).run calls).current ∧
    (∀ c : Controller, c.isRunning = true →
      c.start = (.ok false, c.note .info "Server is already running")) ∧
    (∀ c : Controller, c.isRunning = false →
      c.stop = (.ok false, c.note .info "Server is not running")) ∧
    (∀ (c : Controller) fault, c.start.1 = .error fault → (∀ name, fault ≠ .listener name) →
      c.start.2.isRunning = false) ∧
    (∀ (c : Controller) k, (c.call k).2.silent = (c.silent.call k).2.silent ∧
      ∀ name, (c.call k).1 = .error (.listener name) →
        ∃ l ∈ c.audience k, l.name = name ∧ l.refuses (c.call k).2.statusText = true) ∧
    ((∀ k ∈ calls, ∀ l ∈ k.listener?, ∀ text, l.refuses text = false) →
      ∃ tellings, Tell ((create address timeout factory).run calls).listeners tellings
          ((create address timeout factory).run calls).told ∧
        ∀ before l after, calls = before ++ .listen l :: after →
          let told := toldTo ((create address timeout factory).run before).listeners.length tellings
          told = ((create address timeout factory).run before).phase ::
            ((create address timeout factory).run before).history after ∧
          told.IsChain (· ≠ ·) ∧
          told.getLast?.map Phase.text =
            some ((create address timeout factory).run calls).statusText) := by
  refine ⟨?_, accounted_run (c := create address timeout factory) calls .nothing,
    fun c => start_of_running, ?_, fun c fault => isRunning_of_start_error, ?_, ?_⟩
  · rw [isRunning_iff, phase_run]
    have entered : (create address timeout factory).history calls =
        phases (fun n => (factory n).succeeds timeout) .stopped 0 calls := rfl
    have first : (create address timeout factory).phase = .stopped := rfl
    rw [entered, first, Option.getD_eq_iff]
    simp
  · intro c stopped
    exact stop_of_none (isRunning_eq_false_iff.mp stopped)
  · intro c k
    refine ⟨?_, fun name failed => ?_⟩
    · rw [silent_call, silent_call, silent_next]
    · rw [statusText_call]
      exact exists_of_tell_refused ((tells_call c k).refused name failed)
  · intro willing
    generalize new : create address timeout factory = c
    have nobody : ∀ l ∈ c.listeners, ∀ text, l.refuses text = false := by simp [← new, create]
    obtain ⟨messages, told, tells⟩ := tell_tellings nobody willing
    have all : (c.run calls).told = messages := by
      rw [told, ← new]
      rfl
    refine ⟨c.tellings calls, all ▸ tells, ?_⟩
    rintro before l after rfl told
    obtain ⟨willing_before, _⟩ := List.forall_mem_append.mp willing
    obtain ⟨_, _, earlier⟩ := tell_tellings nobody willing_before
    have each : told = (c.run before).phase :: (c.run before).history after :=
      toldTo_of_listen l after earlier.lt_length
    refine ⟨each, ?_, ?_⟩
    · rw [each]
      exact isChain_history _ after
    · rw [each, statusText_eq, run_append]
      generalize c.run before = d
      rw [phase_run, history_listen, List.getLast?_cons, Option.map_some]

/-- A start that is refused, one that fails, and two servers, of which the second does not exit in
time; calls that change nothing, and a listener that comes at first and once more in between. -/
theorem run_lifecycle_with_failed_starts :
    (∀ k ∈ [.start, .listen ⟨"a", fun _ => false⟩, .start, .stop, .start, .start,
      .listen ⟨"a", fun _ => false⟩, .stop, .stop, .start, .close, .close],
      ∀ l ∈ Call.listener? k, ∀ text, l.refuses text = false) ∧
    ∃ tellings, Tell [⟨"a", fun _ => false⟩, ⟨"a", fun _ => false⟩] tellings
        [("a", "Server: stopped"), ("a", "Server: running"), ("a", "Server: running"),
          ("a", "Server: stopped"), ("a", "Server: stopped"), ("a", "Server: running"),
          ("a", "Server: running"), ("a", "Server: stopped"), ("a", "Server: stopped")] ∧
      toldTo 0 tellings = [.stopped, .running, .stopped, .running, .stopped] ∧
      toldTo 1 tellings = [.running, .stopped, .running, .stopped] := by
  have willing : ∀ k ∈ [.start, .listen ⟨"a", fun _ => false⟩, .start, .stop, .start, .start,
      .listen ⟨"a", fun _ => false⟩, .stop, .stop, .start, .close, .close],
      ∀ l ∈ Call.listener? k, ∀ text, l.refuses text = false := by
    simp [Call.listener?]
  obtain ⟨_, _, _, _, _, _, told⟩ := run_lifecycle "http://127.0.0.1:3000" ⟨10, 1⟩
    (fun n => [.refused "busy", .server false true, .server true true,
      .server true false].getD n (.refused "")) _
  obtain ⟨tellings, tell, each⟩ := told willing
  refine ⟨willing, tellings, tell, ?_, ?_⟩
  · exact (each [.start] ⟨"a", fun _ => false⟩ _ rfl).1
  · exact (each [.start, .listen ⟨"a", fun _ => false⟩, .start, .stop, .start, .start]
      ⟨"a", fun _ => false⟩ _ rfl).1

end Controller

end OpenDocs.Server
