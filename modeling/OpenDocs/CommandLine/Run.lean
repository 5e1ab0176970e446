import OpenDocs.CommandLine.Arguments
import OpenDocs.Json.Shown
import OpenDocs.Server.Controller
import OpenDocs.Settings.Store
import OpenDocs.Web.Service

/-!
# Running the command

The command opens files as tabs and serves them until it is interrupted. A run is described by all
that shows of it: how it ends, what it writes and logs, and the service that it sets up.
-/

namespace OpenDocs.CommandLine

/-- What comes of starting a server and waiting for an end. -/
inductive Ending where
  /-- It does not start, and says why. -/
  | notStarted (message : String)
  /-- The user interrupts the start. -/
  | cutShort
  /-- The user interrupts the wait. -/
  | interrupted
  deriving DecidableEq

/-- What is done about a server. -/
inductive Step where
  | start
  | wait
  | close
  deriving DecidableEq

/-- How a run ends. -/
inductive Conclusion where
  | exit (code : Nat)
  | refused (r : Refusal)
  | fault (f : Disk.Fault)
  /-- The settings go beyond a limit of what is read. -/
  | beyond (limit : Json.Limit)
  /-- A setting has a value of a kind that is of no use. -/
  | unusable (field : Settings.Field)

def Conclusion.code : Conclusion → Nat
  | exit code => code
  | refused .help => 0
  | refused (.misuse _) => 2
  | fault _ | beyond _ | unusable _ => 1

def Conclusion.message : Conclusion → String
  | exit _ => ""
  | refused .help => "usage: " ++ " ".intercalate (Opt.all.flatMap Opt.spellings) ++ " FILE...\n"
  | refused (.misuse m) => s!"error: {m.message}\n"
  | fault f => s!"error: {f.message}\n"
  | beyond .digits => "error: a number of the settings is too long\n"
  | beyond .nesting => "error: the settings are nested too deep\n"
  | unusable field => s!"error: the setting {field.name} is of no use\n"

structure Service where
  settings : Settings
  config : Web.Config
  session : Web.Session
  /-- Where it is to listen. -/
  host : Json
  port : Json
  steps : List Step

/-- How logging is set up. -/
structure LogSetup where
  level : Log.Level
  directory : Json

structure Report where
  conclusion : Conclusion
  output : String
  errors : String
  logSetup : Option LogSetup
  log : List (Log.Level × String)
  /-- The files that were gone to, in this order. -/
  tried : List String
  service : Option Service

namespace Report

def ending (conclusion : Conclusion) : Report := ⟨conclusion, "", "", none, [], [], none⟩

/-- The text source that is asked for is not known. -/
def unsupported (r : Report) (name : String) : Report :=
  { r with conclusion := .exit 2, errors := s!"Unsupported text source: {name}\n" }

end Report

/-- The settings that the arguments give. -/
def Arguments.overrides (a : Arguments) : List (String × Json) :=
  (a.host.map fun s => ("host", Json.text s)).toList
    ++ (a.port.map fun n => ("port", Json.int n)).toList
    ++ (a.assetsDir.map fun s => ("assets_dir", Json.text s)).toList
    ++ (a.diffDir.map fun s => ("diff_dir", Json.text s)).toList
    ++ (a.textSource.map fun s => ("text_source", Json.text s)).toList

def sortedTexts (xs : List String) : List String := xs.mergeSort fun a b => decide (a ≤ b)

/-- The settings in force and where they come from. -/
def dumpText (s : Settings) (path : Disk.Path) (a : Arguments) (env : Settings.Environment) :
    String :=
  let names := (env.map (·.1)).filter (·.startsWith "TABBRIDGE_")
  (Json.record [("settings", s.report),
    ("meta", .record [("path", .text path.text),
      ("cli_overrides", Json.texts (sortedTexts (a.overrides.map (·.1)))),
      ("environment_variables", Json.texts (sortedTexts names))])]).indented ++ "\n"

def settingsPath (d : Disk) (env : Settings.Environment) (a : Arguments) :
    Except Disk.Fault Disk.Path :=
  match (Tabs.Workspace.given a.settingsPath).or
      (Tabs.Workspace.given (env.lookup "TABBRIDGE_SETTINGS_PATH")) with
  | some s => d.expandHome (.ofString s)
  | none => .ok (Settings.defaultPath d)

/-- The files that a run may read. -/
def sources (d : Disk) (env : Settings.Environment) (words : List String) : List Disk.Path :=
  match Arguments.ofWords words with
  | .error _ => []
  | .ok a => (settingsPath d env a).toOption.toList ++ a.files.map .ofString

/-- An editor with no tabs yet, set up from the settings. -/
def editorFor (d : Disk) (s : Settings) (a : Arguments) (source : Tabs.TextSource) :
    Except Conclusion Tabs.Editor := do
  let workspace ← (Tabs.Workspace.empty d (a.root.map .ofString)).mapError .fault
  let directory ← match s.value .diffDir with
    | .text s => pure (some s)
    | v => if Web.isGiven v then throw (.unusable .diffDir) else pure none
  let proposals ← (Proposals.inDirectory d directory 3).mapError .fault
  pure ⟨workspace, source, proposals⟩

/-- Whether a file that cannot be opened for this is told to the user. -/
def isTold : Disk.Fault → Bool
  | .access .. | .encoding (.undecodable _) => true
  | _ => false

structure Opening where
  workspace : Tabs.Workspace
  log : List (Log.Level × String)
  tried : List String
  /-- The first file that could not be opened, and why. -/
  failed : Option (String × Disk.Fault)

/-- Opens files one after the other until one cannot be opened. -/
def openFiles (d : Disk) (w : Tabs.Workspace) : List String → Opening
  | [] => ⟨w, [], [], none⟩
  | file :: rest =>
    match w.openFile d (.ofString file) with
    | .error f => ⟨w, [], [file], some (file, f)⟩
    | .ok (tab, w) =>
      let more := openFiles d w rest
      { more with
        log := (.info, s!"Opened {file} as tab {tab.title}") :: more.log
        tried := file :: more.tried }

def address (host port : Json) : String := s!"http://{host.shown}:{port.shown}"

structure Serving where
  code : Nat
  log : List (Log.Level × String)
  steps : List Step

/-- Serves until there is an end to it, and closes the server however that came about. -/
def serve (host port : Json) (ending : Ending) : Serving :=
  let created := Server.Controller.create (address host port) ⟨10, 1⟩ fun _ => .refused ""
  let status : Log.Level × String := (.info, created.statusText)
  let goodbye : Log.Level × String := (.info, "Shutdown requested by user.")
  let served : Serving :=
    match ending with
    | .notStarted message => ⟨1, [(.error, s!"Failed to start server: {message}")], [.start]⟩
    | .cutShort => ⟨0, [goodbye], [.start]⟩
    | .interrupted => ⟨0, [goodbye], [.start, .wait]⟩
  { served with log := status :: served.log, steps := served.steps ++ [.close] }

/-- Serves a session. `ending` is what comes of a server for a host and a port. -/
def Report.serving (r : Report) (s : Settings) (config : Web.Config) (session : Web.Session)
    (ending : Json → Json → Ending) : Report :=
  let host := s.value .host
  let port := s.value .port
  let served := serve host port (ending host port)
  { r with
    conclusion := .exit served.code
    log := r.log ++ served.log
    service := some ⟨s, config, session, host, port, served.steps⟩ }

def configFault : Web.ConfigFault → Conclusion
  | .wrongKind field => .unusable field
  | .disk f => .fault f

/-- Opens the files and serves them. -/
def runWith (d : Disk) (s : Settings) (a : Arguments) (source : Tabs.TextSource)
    (ending : Json → Json → Ending) (r : Report) : Report :=
  match editorFor d s a source with
  | .error conclusion => { r with conclusion }
  | .ok editor =>
    let opening := openFiles d editor.workspace a.files
    let r := { r with log := r.log ++ opening.log, tried := opening.tried }
    match opening.failed with
    | some (file, f) =>
      if isTold f then
        { r with conclusion := .exit 2, errors := s!"Cannot open {file}: {f.message}\n" }
      else { r with conclusion := .fault f }
    | none =>
      match Web.Config.ofSettings d s with
      | .error f => { r with conclusion := configFault f }
      | .ok config => r.serving s config ⟨d, { editor with workspace := opening.workspace }⟩ ending

/-- The level of logging and where it goes. -/
def logSetup (s : Settings) (a : Arguments) : LogSetup :=
  let debug := a.debug || Web.isGiven (s.value .debugLogging)
  ⟨if debug then .debug else .info, s.value .logDir⟩

/-- Runs with settings that were loaded. `logging` is what setting it up does to the disk. -/
def runSettled (d : Disk) (s : Settings) (a : Arguments)
    (logging : LogSetup → Disk → Except Disk.Fault Disk) (ending : Json → Json → Ending)
    (r : Report) : Report :=
  let setup := logSetup s a
  let r := { r with logSetup := some setup }
  match logging setup d with
  | .error f => { r with conclusion := .fault f }
  | .ok d =>
    match s.value .textSource with
    | .text name =>
      match Tabs.TextSource.named? name with
      | some source => runWith d s a source ending r
      | none => r.unsupported name
    | v => r.unsupported v.shown

/-- The notices that the command logs. -/
def noticed (notices : List Settings.Notice) : List (Log.Level × String) :=
  notices.filterMap fun n => match n with
    | .unreadable .. => some (n.level, n.message)
    | _ => none

def run (d : Disk) (env : Settings.Environment) (words : List String)
    (logging : LogSetup → Disk → Except Disk.Fault Disk) (ending : Json → Json → Ending) : Report :=
  match Arguments.ofWords words with
  | .error r => .ending (.refused r)
  | .ok a =>
    match settingsPath d env a with
    | .error f => .ending (.fault f)
    | .ok path =>
      match Settings.loadOrInitial d env.variables path a.overrides with
      | (.error (.disk f), _) => .ending (.fault f)
      | (.error (.beyond limit), _) => .ending (.beyond limit)
      | (.ok s, notices) =>
        let r := { Report.ending (.exit 0) with log := noticed notices }
        if a.dumpSettings then { r with output := dumpText s path a env }
        else runSettled d s a logging ending r

end OpenDocs.CommandLine
