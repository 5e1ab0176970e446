import OpenDocs.Listener
import OpenDocs.Log.Level
import OpenDocs.Number.Fixed

/-!
# Server control

A controller launches servers, at most one of which is in use at a time. Starting while a server is
in use and stopping while there is none are noted and change nothing. A server that does not come up
in time is told to exit at once.
-/

namespace OpenDocs.Server

/-- What comes of asking for a server. -/
inductive Launch where
  | refused (message : String)
  /-- A server that comes up in time or not, and that exits when it is told to or not. -/
  | server (comesUp leaves : Bool)

/-- What a server is launched with. It sets up no logging of its own, and request lines are left to
the service. -/
structure Configuration where
  host : String
  port : Int
  ownLogging : Option String := none
  requestLines : Bool := false

structure Instance where
  leaves : Bool
  shouldExit : Bool
  /-- How often it was set to run. -/
  runs : Nat

/-- A time in seconds, as a fraction. -/
structure Seconds where
  numerator : Int
  denominator : Nat

def Seconds.text (t : Seconds) : String := Number.tenths t.numerator t.denominator

inductive Fault where
  | factory (message : String)
  | notStarted (address : String)
  | listener (name : String)
  | body
  deriving DecidableEq

def Fault.message : Fault → String
  | factory message => message
  | notStarted address => s!"Failed to start server on {address}"
  | listener name => s!"listener {name}"
  | body => "listener body"

structure Controller where
  address : String
  /-- How long a server may take to come up, and to exit. -/
  timeout : Seconds
  /-- What comes of each call for a server. -/
  factory : Nat → Launch
  calls : Nat
  /-- All servers that were ever launched. -/
  servers : List Instance
  /-- Which of them is in use. -/
  current : Option Nat
  listeners : List (Listener String)
  /-- What the listeners were told. -/
  told : List (String × String)
  log : List (Log.Level × String)

namespace Controller

def create (address : String) (timeout : Seconds) (factory : Nat → Launch) : Controller :=
  ⟨address, timeout, factory, 0, [], none, [], [], []⟩

def isRunning (c : Controller) : Bool := c.current.isSome

def stateName (c : Controller) : String := if c.isRunning then "running" else "stopped"

def statusText (c : Controller) : String := s!"Server: {c.stateName}"

def note (c : Controller) (level : Log.Level) (message : String) : Controller :=
  { c with log := c.log ++ [(level, message)] }

/-- Tells some listeners of the state. -/
def announce (c : Controller) (listeners : List (Listener String)) :
    Except Fault Unit × Controller :=
  let text := c.statusText
  let (told, refused) := tell text listeners
  let c := { c with told := c.told ++ told.map (·, text) }
  match refused with
  | some name => (.error (.listener name), c)
  | none => (.ok (), c)

/-- A new listener is told of the state at once. -/
def addListener (c : Controller) (l : Listener String) : Except Fault Unit × Controller :=
  { c with listeners := c.listeners ++ [l] }.announce [l]

/-- Tells the server at a place in the list to exit. -/
def tellToExit (servers : List Instance) (index : Nat) : List Instance :=
  servers.modify index fun s => { s with shouldExit := true }

/-- Gives an answer after all listeners were told of the state. -/
def announceAll {α : Type} (c : Controller) (answer : α) : Except Fault α × Controller :=
  let (result, c) := c.announce c.listeners
  (result.map fun _ => answer, c)

def start (c : Controller) : Except Fault Bool × Controller :=
  if c.isRunning then (.ok false, c.note .info "Server is already running")
  else
    let launch := c.factory c.calls
    let c := { c with calls := c.calls + 1 }
    match launch with
    | .refused message => (.error (.factory message), c)
    | .server comesUp leaves =>
      let index := c.servers.length
      let servers := c.servers ++ [⟨leaves, false, 1⟩]
      if comesUp && 0 < c.timeout.numerator then
        let c := { c with servers, current := some index }
        (c.note .info s!"Server started on {c.address}").announceAll true
      else
        (.error (.notStarted c.address), { c with servers := tellToExit servers index })

def stop (c : Controller) : Except Fault Bool × Controller :=
  match c.current with
  | none => (.ok false, c.note .info "Server is not running")
  | some index =>
    let leaves := (c.servers[index]?.map (·.leaves)).getD true
    let c := { c with servers := tellToExit c.servers index, current := none }
    let c :=
      if leaves then c
      else c.note .warning s!"Server thread did not exit within {c.timeout.text}s"
    (c.note .info "Server stopped").announceAll true

def close (c : Controller) : Except Fault Unit × Controller :=
  if c.isRunning then
    let (result, c) := c.stop
    (result.map fun _ => (), c)
  else (.ok (), c)

/-- Uses a server for as long as the body takes, whether it fails or not. -/
def during {α : Type} (c : Controller) (body : Controller → Except Fault α) :
    Except Fault α × Controller :=
  match c.start with
  | (.error f, c) => (.error f, c)
  | (.ok _, c) =>
    let result := body c
    match c.close with
    | (.error f, c) => (.error f, c)
    | (.ok (), c) => (result, c)

end Controller

end OpenDocs.Server
