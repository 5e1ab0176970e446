import OpenDocs.Json.Printer
import OpenDocs.Web.Service

/-!
# Requests and answers as JSON

A request is a record of its method, path, query, headers and body, all but the path optional. The
body is a JSON value or a text. An answer is a record as well.
-/

namespace OpenDocs.Web

def textField (j : Json) (key usual : String) : String :=
  match j.field? key with
  | some (.text s) => s
  | _ => usual

def headersOf (j : Json) : List (String × String) :=
  match j.field? "headers" with
  | some (.record fields) => fields.filterMap fun (name, v) => match v with
    | .text s => some (Text.toLower name, s)
    | _ => none
  | _ => []

def bodyOf (j : Json) : List UInt8 :=
  match j.field? "json" with
  | some v => Encoding.Utf8.encode v.compact.toList
  | none => Encoding.Utf8.encode (textField j "raw" "").toList

def Request.ofJson (j : Json) : Request where
  method := textField j "method" "GET"
  path := textField j "path" ""
  query := textField j "query" ""
  headers := headersOf j
  body := bodyOf j
  client := none

def Place.report : Place → Json
  | name s => .text s
  | offset n => .int n

def Complaint.report (c : Complaint) : Json :=
  .list [.text c.flaw.code, .list (c.place.map Place.report)]

/-- The text of some bytes, with a mark for each flaw. -/
def lossyText (bytes : List UInt8) : String :=
  String.ofList (((Encoding.Utf8.codec.decode .mark 0 bytes).toOption).getD [])

/-- The body under a name that tells its kind. -/
def Body.field : Body → String × Json
  | empty => ("text", .text "")
  | text s => ("text", .text (String.ofList s))
  | json j => ("json", j)
  | complaints cs => ("errors", .list (cs.map Complaint.report))
  | file bytes => ("text", .text (lossyText bytes))

def Response.report (r : Response) : Json :=
  .record [("status", .int r.status), ("type", .text r.body.type), r.body.field,
    ("headers", .record (r.headers.map fun (name, s) => (name, .text s)))]

def Entry.line : Entry → String
  | access client method path status => s!"{client} \"{method} {path}\" {status}"
  | note level message => s!"{level.name} {message}"

end OpenDocs.Web
