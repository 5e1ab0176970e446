import OpenDocs.Log.Record
import OpenDocs.Log.RollingFile

/-!
# Loggers

A logger has sinks and a level. A record passes the level of its logger, or of the nearest one
outward that has any, and then reaches the sinks of its logger and of those outward from it, up to
the first that keeps its records to itself. Where there are no sinks at all, a warning and what is
more urgent still shows on the console.
-/

namespace OpenDocs.Log

inductive Target where
  | file (f : RollingFile)
  | console
  deriving DecidableEq

/-- Where records of a level and above are written. -/
structure Sink where
  target : Target
  layout : Layout
  level : Level
  deriving DecidableEq

structure Logger where
  /-- Zero if the logger has no level of its own. -/
  level : Level
  /-- Whether records go on outward. -/
  propagates : Bool
  sinks : List Sink

def Logger.unset : Logger := ⟨0, true, []⟩

abbrev Loggers := Name → Logger

namespace Loggers

/-- Only the root has a level at first. -/
def initial : Loggers
  | [] => { Logger.unset with level := .warning }
  | _ => .unset

def modify (t : Loggers) (n : Name) (f : Logger → Logger) : Loggers :=
  fun m => if m = n then f (t m) else t m

theorem modify_self (t : Loggers) (n : Name) (f : Logger → Logger) :
    t.modify n f n = f (t n) := by
  simp [modify]

theorem modify_of_ne (t : Loggers) {m n : Name} (f : Logger → Logger) (h : m ≠ n) :
    t.modify n f m = t m := by
  simp [modify, h]

/-- The level that records of a logger have to reach. -/
def threshold (t : Loggers) : Name → Level
  | [] => (t []).level
  | part :: outer =>
    let own := (t (part :: outer)).level
    if own = 0 then t.threshold outer else own

/-- The sinks that records of a logger come to. -/
def sinks (t : Loggers) : Name → List Sink
  | [] => (t []).sinks
  | part :: outer =>
    let l := t (part :: outer)
    l.sinks ++ if l.propagates then t.sinks outer else []

/-- The sink for want of any other. -/
def lastResort : Sink := ⟨.console, .bare, .warning⟩

def sinksOrLast (t : Loggers) (n : Name) : List Sink :=
  if (t.sinks n).isEmpty then [lastResort] else t.sinks n

def passes (t : Loggers) (n : Name) (l : Level) : Bool := 0 < l && t.threshold n ≤ l

/-- The sinks that write a record of a level. -/
def reached (t : Loggers) (n : Name) (l : Level) : List Sink :=
  if t.passes n l then (t.sinksOrLast n).filter (·.level ≤ l) else []

end Loggers

/-- What records are written to. -/
structure Output where
  disk : Disk
  console : String

namespace Output

def write (r : Record) (o : Output) (s : Sink) : Output :=
  let line := r.line s.layout
  match s.target with
  | .file f => { o with disk := f.append o.disk line.toList }
  | .console => { o with console := o.console ++ line }

def log (t : Loggers) (o : Output) (r : Record) : Output :=
  (t.reached r.logger r.level).foldl (write r) o

end Output

end OpenDocs.Log
