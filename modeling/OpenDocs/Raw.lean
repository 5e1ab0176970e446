import OpenDocs.Problem

/-!
# Values of unknown shape

Positions, ranges and symbols reach the library in many shapes: records, sequences, or objects
with attributes, none of which is trusted. `Raw.toPosition` and `Raw.toRange` accept the shapes
that denote a position or a range, and refuse all others with the first flaw found.
-/

namespace OpenDocs

inductive Raw where
  | null
  | bool (b : Bool)
  | int (n : Int)
  | float (x : Binary64)
  | text (s : String)
  | bytes (bs : List UInt8)
  | list (items : List Raw)
  | tuple (items : List Raw)
  /-- Items that can be gone through once, and not counted or indexed before. -/
  | stream (items : List Raw)
  | record (fields : List (String × Raw))
  | object (attributes : List (String × Raw))
  /-- Whole numbers one after the other, more than can be listed. -/
  | endless (first : Int)
  /-- A sequence that fails when it is gone through. -/
  | brokenList
  /-- What fails when it is gone through, and is not counted or indexed. -/
  | brokenStream
  /-- No integer, but it stands for one where an index is asked for. -/
  | ordinal (n : Int)
  | position (p : Position)
  | range (r : Range)
  deriving Inhabited

namespace Raw

/-- What the kind of value is called in messages. -/
def kindName : Raw → String
  | null => "NoneType"
  | bool _ => "bool"
  | int _ => "int"
  | float _ => "float"
  | text _ => "str"
  | bytes _ => "bytes"
  | list _ => "list"
  | tuple _ => "tuple"
  | stream _ => "list_iterator"
  | endless _ => "range"
  | brokenList => "memoryview"
  | brokenStream => "generator"
  | record _ => "dict"
  | object _ => "SimpleNamespace"
  | ordinal _ => "Index"
  | position _ => "Position"
  | range _ => "Range"

def isNull : Raw → Bool
  | null => true
  | _ => false

/-- An attribute by name, null if there is none. -/
def member (name : String) : Raw → Raw
  | object attributes => (attributes.lookup name).getD null
  | position p =>
    if name = "line" then int p.line else if name = "character" then int p.character else null
  | range r =>
    if name = "start" then position r.start else if name = "end" then position r.stop else null
  | _ => null

/-- A field of a record or an attribute of anything else, null if there is none. -/
def field (name : String) : Raw → Raw
  | record fields => (fields.lookup name).getD null
  | v => v.member name

theorem sizeOf_lookup_lt {fields : List (String × Raw)} {name : String} :
    sizeOf ((fields.lookup name).getD null) < 1 + sizeOf fields := by
  cases found : fields.lookup name with
  | none => cases fields <;> simp +arith
  | some v =>
    obtain ⟨before, behind, rfl, _⟩ := List.lookup_eq_some_iff.mp found
    have smaller : sizeOf (name, v) < sizeOf (before ++ (name, v) :: behind) :=
      List.sizeOf_lt_of_mem (by simp)
    simp only [Prod.mk.sizeOf_spec] at smaller
    simp only [Option.getD_some]
    omega

/-- What has a text for its name is a record or an object, and larger than what it has. -/
theorem sizeOf_field_lt {raw : Raw} {s : String} (named : raw.field "name" = text s)
    (name : String) : sizeOf (raw.field name) < sizeOf raw := by
  cases raw with
  | record fields => simpa [field] using sizeOf_lookup_lt
  | object attributes => simpa [field, member] using sizeOf_lookup_lt
  | _ => simp [field, member] at named

/-- The items of what can be counted and indexed. -/
def sequence? : Raw → Option (List Raw)
  | list items | tuple items => some items
  | range r => some [position r.start, position r.stop]
  | _ => none

/-- The items of what can be gone through; a missing list is empty. Of endless numbers the first
is enough, because no number is a symbol. -/
def items? : Raw → Option (List Raw)
  | null => some []
  | stream items => some items
  | endless first => some [int first]
  | v => v.sequence?

def coordinate (c : Coordinate) : Raw → Except RangeFlaw Nat
  | int (.ofNat n) | ordinal (.ofNat n) => .ok n
  | int n | ordinal n => .error (.negative c n)
  | _ => .error (.notInteger c)

def positionOf (line character : Raw) : Except RangeFlaw Position := do
  let line ← line.coordinate .line
  let character ← character.coordinate .character
  pure ⟨line, character⟩

theorem positionOf_int_eq_ok_iff {line character : Int} {p : Position} :
    positionOf (.int line) (.int character) = .ok p ↔
      0 ≤ line ∧ 0 ≤ character ∧ p = ⟨line.toNat, character.toNat⟩ := by
  cases line with
  | negSucc n => simp [positionOf, coordinate, bind, Except.bind]
  | ofNat n =>
    cases character with
    | negSucc m => simp [positionOf, coordinate, bind, Except.bind]
    | ofNat m => simp [positionOf, coordinate, bind, Except.bind, pure, Except.pure, eq_comm]

/-- Reads a position from a record, a pair or an object. -/
def toPosition : Raw → Except RangeFlaw Position
  | position p => .ok p
  | record fields =>
    match fields.lookup "line", fields.lookup "character" with
    | some line, some character => positionOf line character
    | _, _ => .error .positionKeys
  | endless _ | brokenList => .error .unlisted
  | v =>
    match v.sequence? with
    | some [line, character] => positionOf line character
    | some _ => .error .positionSize
    | none =>
      let line := v.member "line"
      let character := v.member "character"
      if line.isNull || character.isNull then .error .positionShape
      else positionOf line character

end Raw

/-- The range from one position to another, refused if it would run backwards. -/
def Range.make (start stop : Position) : Except RangeFlaw Range :=
  if h : stop < start then .error (.inverted start stop)
  else .ok ⟨start, stop, Position.le_of_not_lt h⟩

theorem Range.make_eq_ok_iff {start stop : Position} {r : Range} :
    make start stop = .ok r ↔ start ≤ stop ∧ r.start = start ∧ r.stop = stop := by
  rw [make]
  split
  · next inverted =>
    have order : ¬ start ≤ stop := by
      rw [Position.lt_iff] at inverted
      rw [Position.le_iff]
      omega
    simp [order]
  · next apart =>
    have ordered := Position.le_of_not_lt apart
    cases r
    simp [ordered, eq_comm]

namespace Raw

def rangeOf (start stop : Raw) : Except RangeFlaw Range := do
  let start ← start.toPosition
  let stop ← stop.toPosition
  Range.make start stop

/-- Reads a range from a record, two positions, four numbers or an object. -/
def toRange : Raw → Except RangeFlaw Range
  | range r => .ok r
  | null => .error .rangeMissing
  | record fields =>
    match fields.lookup "start", fields.lookup "end" with
    | some start, some stop => rangeOf start stop
    | _, _ => .error .rangeKeys
  | endless _ | brokenList => .error .unlisted
  | v =>
    match v.sequence? with
    | some [startLine, startCharacter, stopLine, stopCharacter] => do
      let start ← positionOf startLine startCharacter
      let stop ← positionOf stopLine stopCharacter
      Range.make start stop
    | some [start, stop] => rangeOf start stop
    | some _ => .error .rangeSize
    | none =>
      let start := v.member "start"
      let stop := v.member "end"
      if start.isNull || stop.isNull then .error .rangeShape else rangeOf start stop

/-- The number that a value equals, among 0 and 1. -/
def end? : Raw → Option Bool
  | bool b => some b
  | int n => if n = 0 then some false else if n = 1 then some true else none
  | float x => match x.toInt? with
    | some n => if n = 0 then some false else if n = 1 then some true else none
    | none => none
  | _ => none

end Raw

/-- The start of a range stands at whatever equals 0, its end at whatever equals 1. -/
def Range.get? (r : Range) (index : Raw) : Option Position :=
  index.end?.map fun second => if second then r.stop else r.start

/-- The value as one of unknown shape. In a torn text there is a mark for each lone surrogate. -/
def Json.toRaw : Json → Raw
  | .null => .null
  | .bool b => .bool b
  | .int n => .int n
  | .float x => .float x
  | .text s => .text s
  | .torn t => .text (Text.mended t.points)
  | .list items => .list (rawItems items)
  | .record fields => .record (rawFields fields)
  | .mixed keys values => .record (rawMixed keys values)
where
  rawItems : List Json → List Raw
    | [] => []
    | v :: vs => v.toRaw :: rawItems vs
  rawFields : List (String × Json) → List (String × Raw)
    | [] => []
    | (k, v) :: rest => (k, v.toRaw) :: rawFields rest
  rawMixed : List (List Text.Point) → List Json → List (String × Raw)
    | k :: keys, v :: vs => (Text.mended k, v.toRaw) :: rawMixed keys vs
    | _, _ => []

def Position.report (p : Position) : Json := Json.ofPosition p.line p.character

def Range.report (r : Range) : Json :=
  .record [("start", r.start.report), ("end", r.stop.report)]

end OpenDocs
