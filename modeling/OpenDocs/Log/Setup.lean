import OpenDocs.Disk.Access
import OpenDocs.Log.Logger
import OpenDocs.Settings.Environment

/-!
# Setting up logging

Records of the application and of the server go to one file, a line for each request to another.
Both show on the console too, unless it is left out. Logging is set up once; later calls change
nothing unless they are forced to.
-/

namespace OpenDocs.Log

/-- The files that records go to. -/
structure Paths where
  application : Disk.Path
  access : Disk.Path
  deriving DecidableEq

structure Logging where
  loggers : Loggers
  /-- The files of the last call that went through. -/
  paths : Option Paths

def Logging.initial : Logging := ⟨.initial, none⟩

/-- What logging is set up with. -/
structure Setup where
  level : Level
  directory : Option String
  console : Bool
  maxBytes : Int
  backups : Int
  force : Bool

def Setup.usual : Setup := ⟨.info, none, true, 1000000, 3, false⟩

/-- The logger of request lines. -/
def accessName : Name := ["access", "tabbridge"]

/-- The loggers of the server. -/
def serverNames : List Name := [["uvicorn"], ["error", "uvicorn"]]

/-- Loggers that have too much to say. -/
def noisyNames : List Name := [["asyncio"], ["httpx"], ["access", "uvicorn"]]

def noisyLevel (l : Level) : Level := max .warning l

def defaultDirectory (d : Disk) : Disk.Path := d.home.join ⟨0, [".tabbridge", "logs"]⟩

/-- The directory that is asked for, or else the environment's; empty texts do not count. -/
def directory (d : Disk) (env : Settings.Environment) (s : Setup) : Except Disk.Fault Disk.Path :=
  let isText (t : String) : Bool := !t.isEmpty
  match (s.directory.filter isText).or ((env.lookup "TABBRIDGE_LOG_DIR").filter isText) with
  | some t => d.expandHome (.ofString t)
  | none => .ok (defaultDirectory d)

namespace Setup

def consoleSinks (s : Setup) : List Sink :=
  if s.console then [⟨.console, .application, s.level⟩] else []

/-- The root takes records of the level that is asked for. -/
def setRoot (s : Setup) (t : Loggers) (f : RollingFile) : Loggers :=
  t.modify [] fun l =>
    { l with level := s.level, sinks := ⟨.file f, .application, s.level⟩ :: s.consoleSinks }

/-- Request lines are kept from the root, and are written whatever its level. -/
def setAccess (s : Setup) (t : Loggers) (f : RollingFile) : Loggers :=
  t.modify accessName fun _ =>
    ⟨.info, false, ⟨.file f, .access, .info⟩ :: s.consoleSinks⟩

def setServer (s : Setup) (t : Loggers) : Loggers :=
  let t := serverNames.foldl (fun t n => t.modify n fun _ => ⟨s.level, true, []⟩) t
  noisyNames.foldl (fun t n => t.modify n fun l => { l with level := noisyLevel s.level }) t

end Setup

/-- The request lines lose their sinks before their new file is opened. -/
def dropAccessSinks (t : Loggers) : Loggers := t.modify accessName fun l => { l with sinks := [] }

namespace Logging

/-- Sets the loggers up for files in a directory that is there. -/
def setUpIn (d : Disk) (g : Logging) (s : Setup) (target : Disk.Path) :
    Except Disk.Fault Paths × Logging × Disk :=
  let paths : Paths := ⟨target.join ⟨0, ["tabbridge.log"]⟩, target.join ⟨0, ["access.log"]⟩⟩
  match openRolling d paths.application s.maxBytes s.backups with
  | .error f => (.error f, g, d)
  | .ok (application, d) =>
    let t := dropAccessSinks (s.setRoot g.loggers application)
    match openRolling d paths.access s.maxBytes s.backups with
    | .error f => (.error f, { g with loggers := t }, d)
    | .ok (access, d) => (.ok paths, ⟨s.setServer (s.setAccess t access), some paths⟩, d)

def setUp (d : Disk) (env : Settings.Environment) (g : Logging) (s : Setup) :
    Except Disk.Fault Paths × Logging × Disk :=
  match g.paths with
  | some paths => if s.force then go else (.ok paths, g, d)
  | none => go
where
  go : Except Disk.Fault Paths × Logging × Disk :=
    match directory d env s with
    | .error f => (.error f, g, d)
    | .ok target =>
      match (Disk.makeDirectories target).run.run d with
      | (.error f, d) => (.error f, g, d)
      | (.ok (), d) => g.setUpIn d s target

end Logging

/-- The logger of the command. -/
def commandName : Name := ["app", "tabbridge"]

/-- The record of where logging goes. -/
def Paths.record (p : Paths) (l : Level) (time : String) : Record :=
  ⟨time, .debug, commandName,
    s!"Logging configured (level={l.name}, log={p.application.text}, access={p.access.text})"⟩

/-- Sets logging up for the command and records where it goes. -/
def Logging.configure (o : Output) (env : Settings.Environment) (g : Logging)
    (debug : Bool) (directory : Option String) (force : Bool) (time : String) :
    Except Disk.Fault Unit × Logging × Output :=
  let level := if debug then Level.debug else Level.info
  match g.setUp o.disk env { Setup.usual with level, directory, force } with
  | (.error f, g, disk) => (.error f, g, { o with disk })
  | (.ok paths, g, disk) =>
    (.ok (), g, Output.log g.loggers { o with disk } (paths.record level time))

end OpenDocs.Log
