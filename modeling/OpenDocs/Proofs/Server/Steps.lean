import OpenDocs.Server.Controller

/-!
# What a call makes of a controller

Whatever its listeners do, a call first makes of the controller what it would make of one that
nobody watches. Then the listeners are told, if the controller is now running and was stopped before,
or the other way round.
-/

namespace OpenDocs

section

variable {News : Type} {news : News} {listeners : List (Listener News)}

theorem tell_of_willing (willing : ∀ l ∈ listeners, l.refuses news = false) :
    tell news listeners = (listeners.map (·.name), none) := by
  induction listeners with
  | nil => rfl
  | cons l rest ih =>
    obtain ⟨own, others⟩ := List.forall_mem_cons.mp willing
    rw [tell, if_neg (by simp [own]), ih others]
    rfl

theorem exists_of_tell_refused {name : String} (refused : (tell news listeners).2 = some name) :
    ∃ l ∈ listeners, l.name = name ∧ l.refuses news = true := by
  induction listeners with
  | nil => cases refused
  | cons l rest ih =>
    rw [tell] at refused
    split at refused
    · next refuses => exact ⟨l, List.mem_cons_self, Option.some.inj refused, refuses⟩
    · obtain ⟨k, held, named, refuses⟩ := ih refused
      exact ⟨k, List.mem_cons_of_mem _ held, named, refuses⟩

end

namespace Server

inductive Phase where
  | stopped | running
  deriving DecidableEq

def Phase.text : Phase → String
  | stopped => "Server: stopped"
  | running => "Server: running"

/-- Whether there is a server, and it comes up in time. -/
def Launch.succeeds (timeout : Seconds) : Launch → Bool
  | refused _ => false
  | server comesUp _ => comesUp && decide (0 < timeout.numerator)

/-- The server that is launched, if any: whether it exits when it is told to. -/
def Launch.leaves? : Launch → Option Bool
  | refused _ => none
  | server _ leaves => some leaves

inductive Call where
  | start | stop | close
  | listen (l : Listener String)

namespace Controller

def phase (c : Controller) : Phase := if c.isRunning then .running else .stopped

/-- Whether the call for a server with this number succeeds. -/
def succeeds (c : Controller) (n : Nat) : Bool := (c.factory n).succeeds c.timeout

theorem statusText_eq (c : Controller) : c.statusText = c.phase.text := by
  unfold statusText stateName phase
  cases c.isRunning <;> rfl

theorem isRunning_iff {c : Controller} : c.isRunning = true ↔ c.phase = .running := by
  unfold phase
  cases c.isRunning <;> simp

def call (c : Controller) : Call → Except Fault (Option Bool) × Controller
  | .start => (c.start.1.map some, c.start.2)
  | .stop => (c.stop.1.map some, c.stop.2)
  | .close => (c.close.1.map fun _ => none, c.close.2)
  | .listen l => ((c.addListener l).1.map fun _ => none, (c.addListener l).2)

def run (c : Controller) (calls : List Call) : Controller :=
  calls.foldl (fun c k => (c.call k).2) c

/-- What a call makes of a controller, apart from what is told and noted. -/
def next (c : Controller) : Call → Controller
  | .start =>
    if c.isRunning then c
    else
      let up := c.succeeds c.calls
      { c with
        calls := c.calls + 1
        servers := c.servers ++ (c.factory c.calls).leaves?.toList.map (⟨·, !up, 1⟩)
        current := if up then some c.servers.length else none }
  | .stop | .close =>
    match c.current with
    | none => c
    | some index => { c with servers := tellToExit c.servers index, current := none }
  | .listen l => { c with listeners := c.listeners ++ [l] }

/-- The listeners that are told when the controller becomes `d`: all, if the phase changes. -/
def heard (c d : Controller) : List (Listener String) :=
  if d.phase = c.phase then [] else c.listeners

/-- The listeners that are told of a call; a new one is told at once. -/
def audience (c : Controller) : Call → List (Listener String)
  | .listen l => [l]
  | k => c.heard (c.next k)

/-! ### What the calls do -/

section

variable {c : Controller}

theorem isRunning_of_some {index : Nat} (found : c.current = some index) : c.isRunning = true := by
  rw [isRunning, found]
  rfl

theorem isRunning_eq_false_iff : c.isRunning = false ↔ c.current = none := by
  rw [isRunning, Option.isSome_eq_false_iff, Option.isNone_iff_eq_none]

theorem tellToExit_append (servers : List Instance) (s : Instance) :
    tellToExit (servers ++ [s]) servers.length = servers ++ [{ s with shouldExit := true }] := by
  unfold tellToExit
  induction servers with
  | nil => rfl
  | cons first rest ih =>
    rw [List.cons_append, List.length_cons, List.modify_succ_cons, ih]
    rfl

theorem start_of_running (running : c.isRunning = true) :
    c.start = (.ok false, c.note .info "Server is already running") := if_pos running

theorem start_of_refused {message : String} (stopped : c.isRunning = false)
    (launch : c.factory c.calls = .refused message) :
    c.start = (.error (.factory message), { c with calls := c.calls + 1 }) := by
  unfold start
  rw [if_neg (by simp [stopped]), launch]

theorem start_of_failed {up leaves : Bool} (stopped : c.isRunning = false)
    (launch : c.factory c.calls = .server up leaves)
    (fails : c.succeeds c.calls = false) :
    c.start = (.error (.notStarted c.address),
      { c with calls := c.calls + 1, servers := c.servers ++ [⟨leaves, true, 1⟩] }) := by
  rw [Controller.succeeds, launch, Launch.succeeds] at fails
  unfold start
  rw [if_neg (by simp [stopped]), launch]
  simp only [fails, tellToExit_append, Bool.false_eq_true, if_false]

theorem exists_start_of_succeeds {up leaves : Bool} (stopped : c.isRunning = false)
    (launch : c.factory c.calls = .server up leaves)
    (succeeds : c.succeeds c.calls = true) :
    ∃ log, c.start = announceAll { c with
      calls := c.calls + 1
      servers := c.servers ++ [⟨leaves, false, 1⟩]
      current := some c.servers.length
      log } true := by
  rw [Controller.succeeds, launch, Launch.succeeds] at succeeds
  unfold start
  rw [if_neg (by simp [stopped]), launch]
  simp only [succeeds, if_true]
  exact ⟨_, rfl⟩

theorem stop_of_none (stopped : c.current = none) :
    c.stop = (.ok false, c.note .info "Server is not running") := by
  unfold stop
  rw [stopped]

theorem exists_stop_of_some {index : Nat} (running : c.current = some index) :
    ∃ log, c.stop =
      announceAll { c with servers := tellToExit c.servers index, current := none, log } true := by
  unfold stop
  rw [running]
  simp only
  split <;> exact ⟨_, rfl⟩

end

theorem exists_listener_of_announceAll {α : Type} {c : Controller} {answer : α} {fault : Fault}
    (failed : (c.announceAll answer).1 = .error fault) : ∃ name, fault = .listener name := by
  simp only [announceAll, announce] at failed
  generalize tell c.statusText c.listeners = outcome at failed
  obtain ⟨told, refused⟩ := outcome
  cases refused with
  | none => cases failed
  | some name => exact ⟨name, (Except.error.inj failed).symm⟩

/-- The outcome is the controller `d`, noted or not, after the listeners were told of it in turn. It
is the fault of a listener only if that one refuses to be told. -/
structure Tells {α : Type} (d : Controller) (listeners : List (Listener String))
    (outcome : Except Fault α × Controller) : Prop where
  state : ∃ log, outcome.2 =
    { d with log, told := d.told ++ (tell d.statusText listeners).1.map (·, d.statusText) }
  refused : ∀ name, outcome.1 = .error (.listener name) →
    (tell d.statusText listeners).2 = some name

namespace Tells

variable {α β : Type} {d : Controller} {listeners : List (Listener String)}

theorem nobody {result : Except Fault α} (fine : ∀ name, result ≠ .error (.listener name))
    (log : List (Log.Level × String)) : Tells d [] (result, { d with log }) := by
  refine ⟨⟨log, ?_⟩, fun name failed => absurd failed (fine name)⟩
  simp only [tell, List.map_nil, List.append_nil]

theorem map {outcome : Except Fault α × Controller} (tells : Tells d listeners outcome)
    (f : α → β) : Tells d listeners (outcome.1.map f, outcome.2) := by
  refine ⟨tells.state, fun name failed => tells.refused name ?_⟩
  obtain ⟨result, _⟩ := outcome
  cases result with
  | error fault => exact congrArg Except.error (Except.error.inj failed)
  | ok answer => cases failed

theorem announce (log : List (Log.Level × String)) (listeners : List (Listener String)) :
    Tells d listeners (Controller.announce { d with log } listeners) := by
  simp only [Controller.announce]
  rw [show statusText { d with log } = d.statusText from rfl]
  constructor
  · generalize tell d.statusText listeners = outcome
    obtain ⟨told, refused⟩ := outcome
    cases refused <;> exact ⟨log, rfl⟩
  · intro name
    generalize tell d.statusText listeners = outcome
    obtain ⟨told, refused⟩ := outcome
    cases refused with
    | none =>
      intro failed
      cases failed
    | some found =>
      intro failed
      exact congrArg some (Fault.listener.inj (Except.error.inj failed))

theorem announceAll (log : List (Log.Level × String)) (answer : α) :
    Tells d d.listeners (Controller.announceAll { d with log } answer) :=
  (announce log d.listeners).map fun _ => answer

end Tells

section

variable {c : Controller}

theorem phase_of_some {index : Nat} (found : c.current = some index) : c.phase = .running := by
  rw [phase, if_pos (isRunning_of_some found)]

theorem phase_of_none (none : c.current = none) : c.phase = .stopped := by
  rw [phase, if_neg (by simp [isRunning_eq_false_iff.mpr none])]

theorem exists_server_of_succeeds (succeeds : c.succeeds c.calls = true) :
    ∃ up leaves, c.factory c.calls = .server up leaves := by
  cases launch : c.factory c.calls with
  | refused message =>
    rw [Controller.succeeds, launch] at succeeds
    cases succeeds
  | server up leaves => exact ⟨up, leaves, rfl⟩

theorem next_start_of_running (running : c.isRunning = true) : c.next .start = c := if_pos running

theorem next_start_of_fails (stopped : c.current = none)
    (fails : c.succeeds c.calls = false) :
    c.next .start = { c with
      calls := c.calls + 1
      servers := c.servers ++ (c.factory c.calls).leaves?.toList.map (⟨·, true, 1⟩) } := by
  rw [next, if_neg (by simp [isRunning_eq_false_iff.mpr stopped]), fails]
  simp [stopped]

theorem next_start_of_succeeds {up leaves : Bool} (stopped : c.current = none)
    (launch : c.factory c.calls = .server up leaves)
    (succeeds : c.succeeds c.calls = true) :
    c.next .start = { c with
      calls := c.calls + 1
      servers := c.servers ++ [⟨leaves, false, 1⟩]
      current := some c.servers.length } := by
  rw [next, if_neg (by simp [isRunning_eq_false_iff.mpr stopped]), succeeds, launch]
  rfl

theorem next_stop_of_none (stopped : c.current = none) : c.next .stop = c := by rw [next, stopped]

theorem next_stop_of_some {index : Nat} (running : c.current = some index) :
    c.next .stop = { c with servers := tellToExit c.servers index, current := none } := by
  rw [next, running]

/-- What a call can make of a controller. -/
inductive Step (c : Controller) : Call → Controller → Prop
  | alreadyRunning : c.isRunning = true → Step c .start c
  | alreadyStopped {k : Call} : k = .stop ∨ k = .close → c.current = none → Step c k c
  | failed : c.current = none → c.succeeds c.calls = false → Step c .start { c with
      calls := c.calls + 1
      servers := c.servers ++ (c.factory c.calls).leaves?.toList.map (⟨·, true, 1⟩) }
  | started {up leaves : Bool} : c.current = none → c.factory c.calls = .server up leaves →
      c.succeeds c.calls = true → Step c .start { c with
        calls := c.calls + 1
        servers := c.servers ++ [⟨leaves, false, 1⟩]
        current := some c.servers.length }
  | ended {k : Call} {index : Nat} : k = .stop ∨ k = .close → c.current = some index →
      Step c k { c with servers := tellToExit c.servers index, current := none }
  | watched {l : Listener String} : Step c (.listen l) { c with listeners := c.listeners ++ [l] }

theorem step_next (c : Controller) (k : Call) : Step c k (c.next k) := by
  cases k with
  | start =>
    cases running : c.isRunning with
    | true =>
      rw [next_start_of_running running]
      exact .alreadyRunning running
    | false =>
      have stopped := isRunning_eq_false_iff.mp running
      cases succeeds : c.succeeds c.calls with
      | false =>
        rw [next_start_of_fails stopped succeeds]
        exact .failed stopped succeeds
      | true =>
        obtain ⟨up, leaves, launch⟩ := exists_server_of_succeeds succeeds
        rw [next_start_of_succeeds stopped launch succeeds]
        exact .started stopped launch succeeds
  | stop | close =>
    rw [next]
    split
    · next stopped => exact .alreadyStopped (by simp) stopped
    · next running => exact .ended (by simp) running
  | listen l => exact .watched

/-- What a call leaves as it is, apart from telling. -/
theorem next_keeps (c : Controller) (k : Call) : (c.next k).factory = c.factory ∧
    (c.next k).timeout = c.timeout ∧ (c.next k).told = c.told := by
  generalize c.next k = d, step_next c k = step
  cases step <;> exact ⟨rfl, rfl, rfl⟩

theorem tells_start (c : Controller) : Tells (c.next .start) (c.heard (c.next .start)) c.start := by
  cases running : c.isRunning with
  | true =>
    rw [next_start_of_running running, heard, if_pos rfl, start_of_running running]
    exact .nobody (by simp) _
  | false =>
    have stopped := isRunning_eq_false_iff.mp running
    cases succeeds : c.succeeds c.calls with
    | false =>
      have next := next_start_of_fails stopped succeeds
      have same : (c.next .start).phase = c.phase := by
        rw [next]
        rfl
      rw [heard, if_pos same, next]
      cases launch : c.factory c.calls with
      | refused message =>
        rw [start_of_refused running launch, Launch.leaves?, Option.toList_none, List.map_nil,
          List.append_nil]
        exact .nobody (by simp) _
      | server up leaves =>
        rw [start_of_failed running launch succeeds]
        exact .nobody (by simp) _
    | true =>
      obtain ⟨up, leaves, launch⟩ := exists_server_of_succeeds succeeds
      have next := next_start_of_succeeds stopped launch succeeds
      have changes : (c.next .start).phase ≠ c.phase := by
        rw [phase_of_none stopped, phase_of_some (by rw [next])]
        decide
      obtain ⟨log, started⟩ := exists_start_of_succeeds running launch succeeds
      rw [heard, if_neg changes, next, started]
      exact .announceAll log true

/-- A start that fails, but not for a listener, leaves the controller stopped. -/
theorem isRunning_of_start_error {fault : Fault} (failed : c.start.1 = .error fault)
    (other : ∀ name, fault ≠ .listener name) : c.start.2.isRunning = false := by
  cases running : c.isRunning with
  | true =>
    rw [start_of_running running] at failed
    cases failed
  | false =>
    cases launch : c.factory c.calls with
    | refused message =>
      rw [start_of_refused running launch]
      exact running
    | server up leaves =>
      cases succeeds : c.succeeds c.calls with
      | false =>
        rw [start_of_failed running launch succeeds]
        exact running
      | true =>
        obtain ⟨log, started⟩ := exists_start_of_succeeds running launch succeeds
        rw [started] at failed
        obtain ⟨name, rfl⟩ := exists_listener_of_announceAll failed
        exact absurd rfl (other name)

theorem tells_stop (c : Controller) : Tells (c.next .stop) (c.heard (c.next .stop)) c.stop := by
  cases found : c.current with
  | none =>
    rw [next_stop_of_none found, heard, if_pos rfl, stop_of_none found]
    exact .nobody (by simp) _
  | some index =>
    have next := next_stop_of_some found
    have changes : (c.next .stop).phase ≠ c.phase := by
      rw [phase_of_some found, phase_of_none (by rw [next])]
      decide
    obtain ⟨log, stopped⟩ := exists_stop_of_some found
    rw [heard, if_neg changes, next, stopped]
    exact .announceAll log true

theorem tells_close (c : Controller) : Tells (c.next .close) (c.heard (c.next .close)) c.close := by
  unfold close
  split
  · exact (tells_stop c).map _
  · next stopped =>
    have none := isRunning_eq_false_iff.mp (eq_false_of_ne_true stopped)
    rw [show c.next .close = c from next_stop_of_none none, heard, if_pos rfl]
    exact .nobody (by simp) c.log

theorem tells_call (c : Controller) (k : Call) : Tells (c.next k) (c.audience k) (c.call k) := by
  cases k with
  | start => exact (tells_start c).map some
  | stop => exact (tells_stop c).map some
  | close => exact (tells_close c).map _
  | listen l => exact (Tells.announce c.log [l]).map _

end

/-! ### What is settled before listeners are told -/

/-- The controller by itself, without those who watch it. -/
def silent (c : Controller) : Controller := { c with listeners := [], told := [], log := [] }

theorem silent_call (c : Controller) (k : Call) : (c.call k).2.silent = (c.next k).silent := by
  obtain ⟨log, same⟩ := (tells_call c k).state
  rw [same]
  rfl

theorem silent_next (c : Controller) (k : Call) : (c.next k).silent = (c.silent.next k).silent := by
  cases k with
  | start =>
    have same : c.silent.isRunning = c.isRunning := rfl
    rw [next, next, same]
    split <;> rfl
  | stop | close =>
    have same : c.silent.current = c.current := rfl
    rw [next, next, same]
    split <;> rfl
  | listen l => rfl

section

variable (c : Controller) (k : Call)

theorem phase_call : (c.call k).2.phase = (c.next k).phase := by
  have same := congrArg phase (silent_call c k)
  exact same

theorem statusText_call : (c.call k).2.statusText = (c.next k).statusText := by
  rw [statusText_eq, statusText_eq, phase_call]

theorem listeners_call : (c.call k).2.listeners = (c.next k).listeners := by
  obtain ⟨log, same⟩ := (tells_call c k).state
  rw [same]

end

end Controller

end Server

end OpenDocs
