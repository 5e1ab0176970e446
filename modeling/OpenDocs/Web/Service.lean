import OpenDocs.Log.Level
import OpenDocs.Outline.Reading
import OpenDocs.Settings.Field
import OpenDocs.Tabs.Editor
import OpenDocs.Web.Framework

/-!
# The service

Requests are answered from a backend, which knows the open documents and presents proposed edits.
What a backend fails in is told to the client where it is a problem of the request, and is otherwise
logged and answered in general words.
-/

namespace OpenDocs.Web

/-- What a request can ask of an editor. The functions act on its state. -/
structure Backend (State : Type) where
  disk : State → Disk
  documents : State → Except Failure Json
  document : State → List Text.Point → Except Failure Tabs.Snapshot
  symbols : State → String → Except Failure Raw
  /-- No proposed text is given for one that is torn. -/
  present : State → List Char → Option (List Char) → String → Except Failure Preview × State

/-- An editor and the disk that it works on. -/
structure Session where
  disk : Disk
  editor : Tabs.Editor

def Session.documents (s : Session) : Json :=
  .list (s.editor.documents.map fun (title, path) =>
    .record [("tabName", .text title), ("path", .text path)])

def editorBackend : Backend Session where
  disk s := s.disk
  documents s := .ok s.documents
  document s identifier := s.editor.document s.disk identifier
  symbols s name := (s.editor.symbols s.disk name).map Outline.Symbol.toRaw
  present s current proposed? label :=
    match proposed? with
    | some proposed =>
      let (result, editor, disk) := s.editor.present s.disk current proposed label
      (result, { disk, editor })
    | none =>
      let (failure, disk) := s.editor.proposals.presentTorn s.disk label
      (.error failure, { s with disk })

structure Config where
  framework : Framework
  assets : Option Disk.Path
  /-- Nothing if the setting is no number. -/
  depth : Option Outline.DepthLimit

/-- Why a service cannot be set up. -/
inductive ConfigFault where
  | wrongKind (field : Settings.Field)
  | disk (f : Disk.Fault)

/-- Whether a setting counts as given. -/
def isGiven : Json → Bool
  | .null => false
  | .bool b => b
  | .int n => n != 0
  | .float x => !x.isZero
  | .text s => !s.isEmpty
  | .list items => !items.isEmpty
  | .record fields => !fields.isEmpty
  | .torn _ | .mixed .. => true

/-- The texts that a setting lists. A text lists its characters and a record its keys. -/
def listed? : Json → Option (List String)
  | .list items => some (items.filterMap fun v => match v with | .text s => some s | _ => none)
  | .text s => some (s.toList.map fun c => String.ofList [c])
  | .torn t => some ((t.points.filterMap (·.char?)).map fun c => String.ofList [c])
  | v => v.fields?.map fun fields => fields.map (·.1)

/-- The path that a setting gives, from the home where it says so. -/
def settingPath (d : Disk) (s : Settings) (field : Settings.Field) :
    Except ConfigFault (Option Disk.Path) :=
  match s.value field with
  | .text "" => .ok none
  | .text text => ((d.expandHome (.ofString text)).map some).mapError .disk
  | v => if isGiven v then .error (.wrongKind field) else .ok none

namespace Config

def listOf (s : Settings) (field : Settings.Field) : Except ConfigFault (List String) :=
  match listed? (s.value field) with
  | some xs => .ok xs
  | none => .error (.wrongKind field)

def ofSettings (d : Disk) (s : Settings) : Except ConfigFault Config := do
  let origins ← listOf s .corsOrigins
  let methods ← listOf s .corsMethods
  let headers ← listOf s .corsHeaders
  let assets ← settingPath d s .assetsDir
  let depth := Outline.DepthLimit.ofJson? (s.value .maxSymbolDepth)
  pure ⟨.usual ⟨origins, methods, headers⟩, assets, depth⟩

end Config

inductive Entry where
  | access (client method path : String) (status : Nat)
  | note (level : Log.Level) (message : String)

/-- A response, or a failure that none of the routes deals with, and what is logged on the way. -/
abbrev Outcome := Except Failure Response × List Entry

/-- The response to a problem of the request. A general problem has none. -/
def tellProblem (p : Problem) : Outcome :=
  match p with
  | .general _ => (.error (.problem p), [])
  | .noSuchTab .. => (.ok (.json 404 p.report), [])
  | .range _ => (.ok (.json 400 p.report), [])
  | .symbol .. =>
    (.ok (.json 502 p.report),
      [.note .warning s!"Backend returned a malformed symbol tree: {p.message}"])

/-- Answers a failure, in general words if it is no problem of the request. -/
def conclude (note apology : String) : Except Failure Response → Outcome
  | .ok response => (.ok response, [])
  | .error (.problem p) => tellProblem p
  | .error (.unnamed _) => (.error (.unsent .surrogate), [])
  | .error _ => (.ok (.text 500 apology), [.note .error note])

/-- The outline as a text or as JSON. -/
def display (json : Bool) (nodes : List Outline.Node) : Except Mishap Response :=
  if Outline.anyLong nodes then .error .longNumber
  else if json then
    match Outline.reportsWithin Outline.reportRoom nodes with
    | some values => .ok (.json 200 (.list values))
    | none => .error .nesting
  else .ok (.text 200 (Outline.render nodes ""))

section

variable {State : Type} (b : Backend State) (config : Config) (s : State)

def answerDocuments : Outcome :=
  conclude "Failed to list tabs" "Failed to get tabs" ((b.documents s).map (.json 200))

def answerDocument (name : String) : Outcome :=
  conclude s!"Failed to read tab {name}" "Failed to read file"
    ((b.document s (Text.points name)).map fun d => ⟨200, [], .text d.text⟩)

/-- What goes wrong when the outline is displayed is not dealt with. -/
def answerSymbols (r : Request) (name : String) : Outcome :=
  match config.framework.format r with
  | .error response => (.ok response, [])
  | .ok json =>
    match b.symbols s name >>= (Outline.flatten · config.depth) with
    | .error f =>
      conclude s!"Failed to resolve symbols for {name}" "Failed to get symbols" (.error f)
    | .ok nodes => ((display json nodes).mapError .mishap, [])

def editReport (p : Preview) : Json :=
  .record [("message", .text "Diff view opened successfully"), ("diff", .text p.diff),
    ("summary", .text p.summary),
    ("proposedPath", match p.path with
      | some path => .text path.text
      | none => .null)]

/-- Applies an edit to a document's text and presents the outcome. -/
def proposeEdit (e : EditRequest) : Except Failure Preview × State :=
  let prepared : Except Failure (Tabs.Snapshot × Option (List Char)) := do
    let snapshot ← b.document s e.tab
    let edit ← e.toEdit.mapError Failure.ofRange
    let proposed ← (edit.apply snapshot.text).mapError Failure.ofRange
    pure (snapshot, (Text.chars? e.text).map fun _ => proposed)
  match prepared with
  | .error f => (.error f, s)
  | .ok (snapshot, proposed?) => b.present s snapshot.text proposed? snapshot.label

def answerEdit (r : Request) : Outcome × State :=
  match config.framework.edit r with
  | .error refusal => ((refusal, []), s)
  | .ok e =>
    let (result, s) := proposeEdit b s e
    (conclude s!"Failed to propose changes for {Text.escaped e.tab}" "Failed to propose changes"
      (result.map fun p => .json 200 (editReport p)), s)

/-- Serves one of the files that may be had from the directory of assets. -/
def answerAsset (r : Request) : Outcome :=
  let absent : Outcome := (.ok (.text 404 "Not found"), [])
  match config.assets with
  | none => absent
  | some directory =>
    let name := String.ofList ((addressPath r.path).toList.dropWhile (· == '/'))
    let path := directory.join (.ofString name)
    match (b.disk s).find? path with
    | .error f => (.error (.fault f), [])
    | .ok (some (.file _)) =>
      match (b.disk s).readBytes path with
      | .error f => (.error (.fault f), [])
      | .ok bytes => (.ok ⟨200, [], .file bytes⟩, [])
    | .ok _ => absent

def answerRoute (r : Request) : Route → Outcome × State
  | .index => ((.ok (.text 200 "tabbridge is running"), []), s)
  | .asset => (answerAsset b config s r, s)
  | .documents => (answerDocuments b s, s)
  | .document name => (answerDocument b s name, s)
  | .symbols name => (answerSymbols b config s r name, s)
  | .edit => answerEdit b config s r

/-- The address that a request is sent on to. -/
def location (r : Request) (path : String) : String :=
  let host := (r.header? "host").getD "localhost"
  let query := if r.query.isEmpty then "" else "?" ++ r.query
  String.ofList (percentEncode ("http://" ++ host ++ path ++ query).toList)

def answer (r : Request) : Outcome × State :=
  match config.framework.destination r.method r.path with
  | .route route => answerRoute b config s r route
  | .otherMethod allowed =>
    ((.ok { Response.detail 405 "Method Not Allowed" with headers := [("allow", allowed)] }, []), s)
  | .redirect path => ((.ok ⟨307, [("location", location r path)], .empty⟩, []), s)
  | .nowhere => ((.ok (.detail 404 "Not Found"), []), s)

/-- What a client gets, what is logged, and a failure that was not dealt with. -/
structure Answer where
  response : Response
  log : List Entry
  escaped : Option Failure

def accessEntry (r : Request) (status : Nat) : Entry :=
  .access (r.client.getD "-") r.method (addressPath r.path) status

/-- The outcome, a failure if the response cannot be sent. -/
def sent : Outcome → Outcome
  | (.ok response, log) =>
    match response.body.unsent? with
    | some why => (.error (.unsent why), log)
    | none => (.ok response, log)
  | outcome => outcome

/-- Answers a request. Every answer is logged but for that to a failure not dealt with. -/
def serve (r : Request) : Answer × State :=
  match config.framework.preflight? r with
  | some response => (⟨response, [accessEntry r response.status], none⟩, s)
  | none =>
    let (outcome, s) := answer b config s r
    match sent outcome with
    | (.ok response, log) =>
      (⟨config.framework.confirm r response, log ++ [accessEntry r response.status], none⟩, s)
    | (.error f, log) => (⟨.text 500 "Internal Server Error", log, some f⟩, s)

end

end OpenDocs.Web
