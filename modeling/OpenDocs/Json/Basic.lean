import OpenDocs.Number.Binary64
import OpenDocs.Text.Point

/-!
# JSON values

Whole numbers and fractions are kept apart, and a record keeps its keys in order of first
appearance. An escape can put a lone surrogate into a text, so there are torn texts, and records
with a torn key among their keys.
-/

namespace OpenDocs

inductive Json where
  | null
  | bool (b : Bool)
  | int (n : Int)
  | float (x : Binary64)
  | text (s : String)
  | torn (t : Text.Torn)
  | list (items : List Json)
  | record (fields : List (String × Json))
  /-- The keys, at least one of them torn, and their values. -/
  | mixed (keys : List (List Text.Point)) (values : List Json)
  deriving Inhabited

namespace Json

/-- Gives a key its value, in place if the key is there and at the end if not. -/
def put {κ : Type} [DecidableEq κ] (key : κ) (value : Json) : List (κ × Json) → List (κ × Json)
  | [] => [(key, value)]
  | (k, v) :: rest => if k = key then (key, value) :: rest else (k, v) :: put key value rest

theorem lookup_put {κ : Type} [DecidableEq κ] (key : κ) (value : Json) (fields : List (κ × Json))
    (k : κ) :
    (put key value fields).lookup k = if k = key then some value else fields.lookup k := by
  induction fields with
  | nil => simp only [put, List.lookup_cons, List.lookup_nil]; grind
  | cons f rest ih => simp only [put]; split <;> simp only [List.lookup_cons] <;> grind

/-- The text with these code points. -/
def ofPoints (ps : List Text.Point) : Json :=
  match whole : Text.whole? ps with
  | some s => .text s
  | none => .torn ⟨ps, whole⟩

@[simp] theorem ofPoints_points (s : String) : ofPoints (Text.points s) = .text s := by
  rw [ofPoints]
  split
  · next t whole =>
    rw [Text.whole?_points] at whole
    rw [Option.some.inj whole]
  · next whole =>
    rw [Text.whole?_points] at whole
    cases whole

/-- The fields by name, if no key is torn. -/
def named? : List (List Text.Point × Json) → Option (List (String × Json))
  | [] => some []
  | (key, v) :: rest =>
    match Text.whole? key, named? rest with
    | some name, some fields => some ((name, v) :: fields)
    | _, _ => none

/-- The record with these fields. -/
def ofFields (fields : List (List Text.Point × Json)) : Json :=
  match named? fields with
  | some fields => .record fields
  | none => .mixed (fields.map (·.1)) (fields.map (·.2))

/-- The fields by name, those under a torn key left out. -/
def namedOnly (fields : List (List Text.Point × Json)) : List (String × Json) :=
  fields.filterMap fun e => (Text.whole? e.1).map (·, e.2)

/-- The fields of a record that have a name. -/
def fields? : Json → Option (List (String × Json))
  | .record fields => some fields
  | .mixed keys values => some (namedOnly (keys.zip values))
  | _ => none

def field? (key : String) (v : Json) : Option Json := v.fields?.bind (·.lookup key)

def ofPosition (line character : Int) : Json :=
  .record [("line", .int line), ("character", .int character)]

def texts (xs : List String) : Json := .list (xs.map .text)

def ints (xs : List Int) : Json := .list (xs.map .int)

def nats (xs : List Nat) : Json := .list (xs.map fun n : Nat => .int n)

mutual

/-- Whether all of the value is of a kind. -/
def every (kind : Json → Bool) : Json → Bool
  | .list items => everyItem kind items
  | .record fields => everyField kind fields
  | .mixed keys values => kind (.mixed keys values) && everyItem kind values
  | v => kind v

def everyItem (kind : Json → Bool) : List Json → Bool
  | [] => true
  | v :: vs => every kind v && everyItem kind vs

def everyField (kind : Json → Bool) : List (String × Json) → Bool
  | [] => true
  | (_, v) :: rest => every kind v && everyField kind rest

end

/-- Whether no text in the value is torn. -/
def isWhole : Json → Bool :=
  every fun v => match v with
    | .torn _ | .mixed .. => false
    | _ => true

/-- Whether every float in the value is a number. -/
def isFinite : Json → Bool :=
  every fun v => match v with
    | .float x => x.fraction?.isSome
    | _ => true

/-- The most digits of a whole number that are converted, to text or from it. -/
def maxDigits : Nat := 4300

def isLong (n : Int) : Bool := maxDigits < (Nat.toDigits 10 n.natAbs).length

/-- Whether a number that is written out has more digits. -/
def isLongText (number : String) : Bool := maxDigits < number.toList.countP Char.isDigit

mutual

/-- Whether there is a whole number of more digits anywhere in the value. -/
def hasLongNumber : Json → Bool
  | .int n => isLong n
  | .list items => anyLongNumber items
  | .record fields => anyFieldLong fields
  | .mixed _ values => anyLongNumber values
  | _ => false

def anyLongNumber : List Json → Bool
  | [] => false
  | v :: vs => hasLongNumber v || anyLongNumber vs

def anyFieldLong : List (String × Json) → Bool
  | [] => false
  | (_, v) :: rest => hasLongNumber v || anyFieldLong rest

end

end Json

end OpenDocs
