import OpenDocs.Edit
import OpenDocs.Web.Message

/-!
# Requests for an edit

A request names a tab, the four numbers of a range and the text to put there. All that is wrong with
its fields is told at once; whether the numbers make a range is asked later.
-/

namespace OpenDocs.Web

structure EditRequest where
  tab : List Text.Point
  startLine : Int
  startCharacter : Int
  endLine : Int
  endCharacter : Int
  text : List Text.Point
  deriving DecidableEq

namespace EditRequest

def ofFields (j : Json) : Except (List Complaint) EditRequest :=
  let tab := readField j "tab_name" toText none
  let startLine := readField j "start_line" toInteger none
  let startCharacter := readField j "start_character" toInteger none
  let endLine := readField j "end_line" toInteger none
  let endCharacter := readField j "end_character" toInteger none
  let text := readField j "new_text" toText (some [])
  match tab, startLine, startCharacter, endLine, endCharacter, text with
  | .ok tab, .ok startLine, .ok startCharacter, .ok endLine, .ok endCharacter, .ok text =>
    .ok ⟨tab, startLine, startCharacter, endLine, endCharacter, text⟩
  | _, _, _, _, _, _ =>
    .error ((complaint? tab).toList ++ (complaint? startLine).toList
      ++ (complaint? startCharacter).toList ++ (complaint? endLine).toList
      ++ (complaint? endCharacter).toList ++ (complaint? text).toList)

def ofJson (j : Json) : Except (List Complaint) EditRequest :=
  match j.fields? with
  | some _ => ofFields j
  | none => .error [⟨.notRecord, [], j⟩]

/-- The edit with nothing in place of a torn text. -/
def toEdit (r : EditRequest) : Except RangeFlaw Edit := do
  let start ← Raw.positionOf (.int r.startLine) (.int r.startCharacter)
  let stop ← Raw.positionOf (.int r.endLine) (.int r.endCharacter)
  pure ⟨← Range.make start stop, (Text.chars? r.text).getD []⟩

end EditRequest

def inBody (c : Complaint) : Complaint := { c with place := .name "body" :: c.place }

def refuseBody (cs : List Complaint) : Response := ⟨422, [], .complaints (cs.map inBody)⟩

/-- What is said of a body that is no JSON. One of another type is told as a text. -/
def tellBody (r : Request) : BodyFlaw → Except Failure Response
  | .missing => .ok (refuseBody [⟨.missing, [], .null⟩])
  | .invalid offset => .ok (refuseBody [⟨.invalidJson, [.offset offset], .null⟩])
  | .unreadable => .ok (.detail 400 "There was an error parsing the body")
  | .otherType =>
    match Encoding.Utf8.codec.decode .refuse 0 r.body with
    | .ok text => .ok (refuseBody [⟨.notRecord, [], .text (String.ofList text)⟩])
    | .error flaw => .error (.fault (.encoding (.undecodable flaw)))

/-- The edit that a body asks for, or what is said of one that asks for none. -/
def Request.edit (r : Request) : Except (Except Failure Response) EditRequest :=
  match r.json with
  | .error flaw => .error (tellBody r flaw)
  | .ok j => (EditRequest.ofJson j).mapError fun cs => .ok (refuseBody cs)

theorem Request.edit_of_body {r : Request} {j : Json} {e : EditRequest} (read : r.json = .ok j)
    (asked : EditRequest.ofJson j = .ok e) : r.edit = .ok e := by
  rw [edit, read]
  exact congrArg (Except.mapError _) asked

end OpenDocs.Web
