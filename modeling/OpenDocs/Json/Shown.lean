import OpenDocs.Json.Basic
import OpenDocs.Number.Shortest
import OpenDocs.Text.Quoted

/-!
# JSON values in messages

A text by itself is shown as it is, and quoted within another value. A lone surrogate is shown by
its number.
-/

namespace OpenDocs.Json

mutual

def displayed : Json → String
  | .null => "None"
  | .bool b => if b then "True" else "False"
  | .int n => toString n
  | .float x => x.text
  | .text s => Text.quote s
  | .torn t => Text.quotePoints t.points
  | .list items => "[" ++ ", ".intercalate (displayedItems items) ++ "]"
  | .record fields => "\x7b" ++ ", ".intercalate (displayedFields fields) ++ "\x7d"
  | .mixed keys values => "\x7b" ++ ", ".intercalate (displayedMixed keys values) ++ "\x7d"

def displayedItems : List Json → List String
  | [] => []
  | v :: vs => displayed v :: displayedItems vs

def displayedFields : List (String × Json) → List String
  | [] => []
  | (k, v) :: rest => (Text.quote k ++ ": " ++ displayed v) :: displayedFields rest

def displayedMixed : List (List Text.Point) → List Json → List String
  | k :: keys, v :: vs => (Text.quotePoints k ++ ": " ++ displayed v) :: displayedMixed keys vs
  | _, _ => []

end

def shown : Json → String
  | .text s => s
  | .torn t => Text.escaped t.points
  | v => v.displayed

end OpenDocs.Json
