import OpenDocs.Disk.Access
import OpenDocs.Json.Printer
import OpenDocs.Json.Reader
import OpenDocs.Log.Level
import OpenDocs.Settings.Environment

/-!
# Settings on disk

Settings are kept in a file as a JSON record. Loading starts from the initial settings and takes
over, in this order, what the file, the caller and the environment say. What is remarkable about it
is noted.
-/

namespace OpenDocs.Settings

inductive Notice where
  | loaded (path : Disk.Path)
  | saved (path : Disk.Path)
  | overridden (source : String) (names : List String)
  | invalid (path : Disk.Path) (message : String)
  | noRecord (path : Disk.Path)
  | notInteger (variable_ : String) (value : List Text.Point)
  | unreadable (path : Disk.Path) (fault : Disk.Fault)

namespace Notice

def level : Notice → Log.Level
  | loaded _ | saved _ | overridden .. => .debug
  | _ => .warning

/-- The message with a mark for each thing that is filled in. -/
def template : Notice → String
  | loaded _ => "Settings loaded from %s"
  | saved _ => "Settings saved to %s"
  | overridden .. => "Applying %s settings overrides: %s"
  | invalid .. => "Settings file %s is not valid JSON: %s"
  | noRecord _ => "Settings file %s does not contain a JSON object"
  | notInteger .. => "Environment override %s=%s is not a valid integer"
  | unreadable .. => "Failed to load settings from %s: %s"

/-- What is filled in, with a mark for each lone surrogate. -/
def details : Notice → List String
  | loaded p | saved p | noRecord p => [p.text]
  | overridden source names => [source, Text.quoteAll names]
  | invalid p message => [p.text, message]
  | notInteger variable_ value => [variable_, Text.mended value]
  | unreadable p fault => [p.text, fault.message]

def fill : List Char → List String → List Char
  | '%' :: 's' :: rest, detail :: details => detail.toList ++ fill rest details
  | c :: rest, details => c :: fill rest details
  | [], _ => []

def message (n : Notice) : String := String.ofList (fill n.template.toList n.details)

end Notice

/-- Why settings cannot be loaded. -/
inductive Fault where
  | disk (f : Disk.Fault)
  /-- Reading the file as JSON goes beyond a limit. -/
  | beyond (limit : Json.Limit)

/-- The text of a file, with each line break as one line feed. -/
def joinBreaks : List Char → List Char
  | '\r' :: '\n' :: cs => '\n' :: joinBreaks cs
  | '\r' :: cs => '\n' :: joinBreaks cs
  | c :: cs => c :: joinBreaks cs
  | [] => []

/-- What the text of a file is as JSON; `room` is for lists and records within one another. -/
def jsonOf (room : Nat) (t : List Char) : Except Json.Fault Json :=
  Json.readWithin room (String.ofList (joinBreaks t))

/-- The record that the text of a file holds, empty if it holds none. -/
def readText (room : Nat) (path : Disk.Path) (t : List Char) :
    Except Fault (List (String × Json)) × List Notice :=
  match jsonOf room t with
  | .ok (.record []) => (.ok [], [])
  | .ok v =>
    match v.fields? with
    | some fields => (.ok fields, [.loaded path])
    | none => (.ok [], [.noRecord path])
  | .error ⟨.beyond limit, _⟩ => (.error (.beyond limit), [])
  | .error fault => (.ok [], [.invalid path (fault.message (joinBreaks t))])

/-- The record in the file, empty if there is no file or no record in it. -/
def readFile (room : Nat) (d : Disk) (path : Disk.Path) :
    Except Fault (List (String × Json)) × List Notice :=
  match d.find? path with
  | .error f => (.error (.disk f), [])
  | .ok none => (.ok [], [])
  | .ok (some _) =>
    match d.readBytes path with
    | .error f => (.error (.disk f), [])
    | .ok bytes =>
      match Encoding.decodeAs (.utf8 false) "strict" bytes with
      | .error r => (.error (.disk (.encoding r)), [])
      | .ok t => readText room path t

/-- Takes over the values that are not null. -/
def override (s : Settings) (source : String) (values : List (String × Json)) :
    Settings × List Notice :=
  let known := values.filter fun (name, v) =>
    (Field.named? name).isSome && !(v matches .null)
  if known.isEmpty then (s, [])
  else
    let names := (known.map (·.1)).mergeSort fun a b => decide (a ≤ b)
    (s.setNamed known, [.overridden source names])

def loadWithin (room : Nat) (d : Disk) (env : Variables) (path : Disk.Path)
    (overrides : List (String × Json)) : Except Fault Settings × List Notice :=
  match readFile room d path with
  | (.error f, notices) => (.error f, notices)
  | (.ok fields, notices) =>
    let (s, fromCaller) := (initial.setNamed fields).override "CLI" overrides
    let misread := env.misread.map fun (variable_, value) => Notice.notInteger variable_ value
    let (s, fromEnvironment) := s.override "environment" env.overrides
    (.ok s, notices ++ fromCaller ++ misread ++ fromEnvironment)

/-- Falls back to the initial settings if the file cannot be accessed. -/
def loadOrInitialWithin (room : Nat) (d : Disk) (env : Variables) (path : Disk.Path)
    (overrides : List (String × Json)) : Except Fault Settings × List Notice :=
  match loadWithin room d env path overrides with
  | (.error (.disk (.access flaw text)), notices) =>
    (.ok initial, notices ++ [.unreadable path (.access flaw text)])
  | result => result

def load : Disk → Variables → Disk.Path → List (String × Json) →
    Except Fault Settings × List Notice :=
  loadWithin Json.usualRoom

def loadOrInitial : Disk → Variables → Disk.Path → List (String × Json) →
    Except Fault Settings × List Notice :=
  loadOrInitialWithin Json.usualRoom

/-- The file's text: the fields and the version of the format, by name. -/
def fileText (s : Settings) : String :=
  let fields := (Field.all.map fun f => (f.name, s.value f)) ++ [("version", .int 1)]
  (Json.sorted (.record fields)).indented

/-- Why settings cannot be saved. -/
inductive SaveFault where
  | disk (f : Disk.Fault)
  /-- The path has no name. -/
  | noName
  /-- The settings hold a whole number of too many digits. -/
  | longNumber

/-- Writes the text beside the file, in one of the same name but for its suffix, which then takes
the file's place. -/
def save (s : Settings) (d : Disk) (path : Disk.Path) : Except SaveFault Notice × Disk :=
  if Field.all.any fun f => (s.value f).hasLongNumber then (.error .longNumber, d)
  else match (Disk.makeDirectories path.parent).run.run d with
  | (.error f, d) => (.error (.disk f), d)
  | (.ok (), d) =>
    match path.withSuffix? ".tmp" with
    | none => (.error .noName, d)
    | some draft =>
      match d.openFile draft (Encoding.Utf8.encode s.fileText.toList) with
      | .error f => (.error (.disk f), d)
      | .ok d =>
        match d.locate draft >>= (d.moveFile · path) with
        | .error f => (.error (.disk f), d)
        | .ok d => (.ok (.saved path), d)

def defaultPath (d : Disk) : Disk.Path := d.home.join ⟨0, [".tabbridge", "settings.json"]⟩

end OpenDocs.Settings
