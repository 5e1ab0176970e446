import OpenDocs.CommandLine.Run
import OpenDocs.Json.Reader
import OpenDocs.Web.Exchange

/-!
# The command

Takes the files that a run may read into a disk, runs the command on it and serves requests, one a
line, until there are no more. What changes on the disk is written back after each request.
-/

namespace OpenDocs

/-- Takes what a path leads to into the disk, or away from it if there is nothing. -/
def loadFile (d : Disk) (p : Disk.Path) : IO Disk := do
  try
    let bytes ← IO.FS.readBinFile p.text
    pure (d.placeFile p bytes.toList)
  catch _ =>
    try
      let place ← IO.FS.realPath p.text
      pure (if ← place.isDir then d.placeDirectory p else d.placeSealed p)
    catch _ => pure (d.erase p)

def saveEntry : Disk.Path × Disk.Entry → IO Unit
  | (p, .directory) => IO.FS.createDirAll p.text
  | (p, .file bytes) => do
    IO.FS.createDirAll p.parent.text
    IO.FS.writeBinFile p.text ⟨bytes.toArray⟩

/-- The homes of the users that a table of accounts lists, the home being the sixth part of a
line. -/
def usersIn (table : String) : List (String × Disk.Path) :=
  (Text.pieces '\n' table).filterMap fun line =>
    match Text.pieces ':' line with
    | name :: _ :: _ :: _ :: _ :: home :: _ => some ("~" ++ name, .ofString home)
    | _ => none

def processUsers : IO (List (String × Disk.Path)) := do
  try
    pure (usersIn (← IO.FS.readFile "/etc/passwd"))
  catch _ => pure []

/-- A disk with the directories of the process. -/
def processDisk : IO Disk := do
  let working := Disk.Path.ofString (toString (← IO.currentDir))
  let home := Disk.Path.ofString ((← IO.getEnv "HOME").getD "/")
  let temporary := Disk.Path.ofString ((← IO.getEnv "TMPDIR").getD "/tmp")
  let d : Disk := ⟨[], working.names, home, temporary, ← processUsers, []⟩
  pure ([working, home, temporary].foldl Disk.placeDirectory d)

def processEnvironment : IO Settings.Environment :=
  ("TABBRIDGE_SETTINGS_PATH" :: Settings.environmentVariables.map (·.1)).filterMapM fun name => do
    return (← IO.getEnv name).map (name, ·)

/-- The files that a request may read. -/
def servedFiles (config : Web.Config) (s : Web.Session) : List Disk.Path :=
  s.editor.workspace.tabs.filterMap (·.path)
    ++ (config.assets.map fun p => Web.assetPaths.map fun name =>
      p.join ⟨0, (Disk.Path.ofString name).names⟩).getD []

partial def serveLines (config : Web.Config) (s : Web.Session) : IO Unit := do
  let line ← (← IO.getStdin).getLine
  if line.isEmpty then return
  match Json.read line with
  | .error f =>
    IO.eprintln s!"No request: unreadable at {f.offset}"
    serveLines config s
  | .ok j =>
    let s := { s with disk := ← (servedFiles config s).foldlM loadFile s.disk }
    let (answer, after) := Web.serve Web.editorBackend config s (.ofJson j)
    (s.disk.changes after.disk).forM saveEntry
    IO.println answer.response.report.compact
    (← IO.getStdout).flush
    answer.log.forM fun e => IO.eprintln e.line
    serveLines config after

def printLog (log : List (Log.Level × String)) : IO Unit :=
  log.forM fun (level, message) => IO.eprintln s!"{level.name} {message}"

end OpenDocs

open OpenDocs in
def main (words : List String) : IO UInt32 := do
  let env ← processEnvironment
  let d ← processDisk
  let d ← (CommandLine.sources d env words).foldlM loadFile d
  let report := CommandLine.run d env words (fun _ d => .ok d) fun _ _ => .interrupted
  IO.print report.output
  IO.eprint (report.errors ++ report.conclusion.message)
  match report.service with
  | none => printLog report.log
  | some service =>
    printLog report.log.dropLast
    serveLines service.config service.session
    printLog report.log.getLast?.toList
  return report.conclusion.code.toUInt32
