import OpenDocs.Json.Basic
import OpenDocs.Number.Shortest

/-!
# Writing JSON

Only ASCII is written: any other character is escaped by its UTF-16 units, and a lone surrogate is
a unit by itself. `Json.compact` puts a value on one line, `Json.indented` gives each item a line of
its own.
-/

namespace OpenDocs.Json

def hexChar (n : Nat) : Char := if n < 10 then Char.ofNat (48 + n) else Char.ofNat (87 + n)

def unitEscape (n : Nat) : List Char :=
  ['\\', 'u', hexChar (n / 4096 % 16), hexChar (n / 256 % 16), hexChar (n / 16 % 16),
    hexChar (n % 16)]

def escapeChar (c : Char) : List Char :=
  match c with
  | '"' => ['\\', '"']
  | '\\' => ['\\', '\\']
  | '\n' => ['\\', 'n']
  | '\r' => ['\\', 'r']
  | '\t' => ['\\', 't']
  | '\x08' => ['\\', 'b']
  | '\x0c' => ['\\', 'f']
  | c =>
    let n := c.toNat
    if 0x20 ≤ n ∧ n ≤ 0x7e then [c]
    else if n < 0x10000 then unitEscape n
    else unitEscape (0xD800 + (n - 0x10000) / 0x400) ++ unitEscape (0xDC00 + (n - 0x10000) % 0x400)

def quoted (s : String) : String :=
  String.ofList ('"' :: s.toList.flatMap escapeChar ++ ['"'])

def escapePoint : Text.Point → List Char
  | .char c => escapeChar c
  | .surrogate n => unitEscape (0xD800 + n)

def quotedPoints (ps : List Text.Point) : String :=
  String.ofList ('"' :: ps.flatMap escapePoint ++ ['"'])

def floatText : Binary64 → String
  | .nan => "NaN"
  | .infinite s => if s then "-Infinity" else "Infinity"
  | x => x.text

mutual

def compact : Json → String
  | .null => "null"
  | .bool b => if b then "true" else "false"
  | .int n => toString n
  | .float x => floatText x
  | .text s => quoted s
  | .torn t => quotedPoints t.points
  | .list items => "[" ++ ",".intercalate (compactItems items) ++ "]"
  | .record fields => "\x7b" ++ ",".intercalate (compactFields fields) ++ "\x7d"
  | .mixed keys values => "\x7b" ++ ",".intercalate (compactMixed keys values) ++ "\x7d"

def compactItems : List Json → List String
  | [] => []
  | v :: vs => compact v :: compactItems vs

def compactFields : List (String × Json) → List String
  | [] => []
  | (k, v) :: rest => (quoted k ++ ":" ++ compact v) :: compactFields rest

def compactMixed : List (List Text.Point) → List Json → List String
  | k :: keys, v :: vs => (quotedPoints k ++ ":" ++ compact v) :: compactMixed keys vs
  | _, _ => []

end

def newline (indent : Nat) : String := "\n" ++ String.ofList (List.replicate indent ' ')

mutual

/-- Each level is indented by two more blanks. -/
def indentedAt (indent : Nat) : Json → String
  | .list [] => "[]"
  | .record [] => "\x7b\x7d"
  | .list items =>
    "[" ++ ",".intercalate (indentedItems (indent + 2) items) ++ newline indent ++ "]"
  | .record fields =>
    "\x7b" ++ ",".intercalate (indentedFields (indent + 2) fields) ++ newline indent ++ "\x7d"
  | .null => "null"
  | .bool b => if b then "true" else "false"
  | .int n => toString n
  | .float x => floatText x
  | .text s => quoted s
  | .torn t => quotedPoints t.points
  | .mixed keys values =>
    "\x7b" ++ ",".intercalate (indentedMixed (indent + 2) keys values) ++ newline indent ++ "\x7d"

def indentedItems (indent : Nat) : List Json → List String
  | [] => []
  | v :: vs => (newline indent ++ indentedAt indent v) :: indentedItems indent vs

def indentedFields (indent : Nat) : List (String × Json) → List String
  | [] => []
  | (k, v) :: rest =>
    (newline indent ++ quoted k ++ ": " ++ indentedAt indent v) :: indentedFields indent rest

def indentedMixed (indent : Nat) : List (List Text.Point) → List Json → List String
  | k :: keys, v :: vs =>
    (newline indent ++ quotedPoints k ++ ": " ++ indentedAt indent v) ::
      indentedMixed indent keys vs
  | _, _ => []

end

/-- Whether a key stands before another or is the same, by the numbers of their code points. -/
def keyLe : List Text.Point → List Text.Point → Bool
  | [], _ => true
  | _ :: _, [] => false
  | p :: ps, q :: qs => p.number < q.number || (p.number == q.number && keyLe ps qs)

/-- The fields in the order of their keys. -/
def mixedInOrder (fields : List (List Text.Point × Json)) : Json :=
  let inOrder := fields.mergeSort fun a b => keyLe a.1 b.1
  .mixed (inOrder.map (·.1)) (inOrder.map (·.2))

mutual

/-- The value with the keys of every record in order. -/
def sorted : Json → Json
  | .list items => .list (sortedItems items)
  | .record fields => .record ((sortedFields fields).mergeSort fun a b => decide (a.1 ≤ b.1))
  | .mixed keys values => mixedInOrder (keys.zip (sortedItems values))
  | v => v

def sortedItems : List Json → List Json
  | [] => []
  | v :: vs => sorted v :: sortedItems vs

def sortedFields : List (String × Json) → List (String × Json)
  | [] => []
  | (k, v) :: rest => (k, sorted v) :: sortedFields rest

end

def indented (v : Json) : String := indentedAt 0 v

end OpenDocs.Json
