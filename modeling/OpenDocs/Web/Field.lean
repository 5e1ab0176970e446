import OpenDocs.Json.Basic
import OpenDocs.Text.Classes
import OpenDocs.Text.Integer
import OpenDocs.Web.FieldName

/-!
# Fields of a request

What is wrong with a request is said field by field. An integer may also be given as a truth value,
as a float without a fraction or as a text of ASCII digits. Fields are checked by the framework, of
which only the values that it takes are relied on and not what it says of others.
-/

namespace OpenDocs.Web

inductive FieldFlaw where
  | missing
  | notText
  | notInteger
  | unreadableInteger
  | tornInteger
  | longInteger
  | fractional
  | notFinite
  | notRecord
  | noChoice
  | invalidJson
  deriving DecidableEq

def FieldFlaw.code : FieldFlaw → String
  | missing => "missing"
  | notText => "string_type"
  | notInteger => "int_type"
  | unreadableInteger => "int_parsing"
  | tornInteger => "string_unicode"
  | longInteger => "int_parsing_size"
  | fractional => "int_from_float"
  | notFinite => "finite_number"
  | notRecord => "model_attributes_type"
  | noChoice => "literal_error"
  | invalidJson => "json_invalid"

/-- A step on the way to the value that is meant. -/
inductive Place where
  | name (s : String)
  | offset (n : Nat)
  deriving DecidableEq

/-- A flaw, where it is, and the value that it was found in. -/
structure Complaint where
  flaw : FieldFlaw
  place : List Place
  input : Json

def isAsciiDigit (c : Char) : Bool := '0' ≤ c && c ≤ '9'

/-- The text without a fraction that is nought. -/
def dropFraction (cs : List Char) : List Char :=
  match cs.dropWhile (· != '.') with
  | '.' :: fraction => if fraction.all (· == '0') then cs.takeWhile (· != '.') else cs
  | _ => cs

/-- What follows leading noughts, of which the last is `last`; underscores between them are
passed over. -/
def afterNoughts (last : Char) : List Char → Option (List Char)
  | [] => some [last]
  | c :: cs =>
    if c == '0' || c == '_' then afterNoughts c cs
    else if isAsciiDigit c then some (c :: cs)
    else if c == '.' then some (last :: c :: cs)
    else none

def dropNoughts : List Char → Option (List Char)
  | '0' :: cs => afterNoughts '0' cs
  | c :: cs => if isAsciiDigit c || c == '-' then some (c :: cs) else none
  | [] => none

/-- Takes out underscores if each stands by itself and none at an end. -/
def dropUnderscores (cs : List Char) : List Char :=
  let pieces := Text.cut '_' cs
  if pieces.any (·.isEmpty) then cs else pieces.flatten

def plainInteger (negative : Bool) (cs : List Char) : Except FieldFlaw Int :=
  if cs.isEmpty || !cs.all isAsciiDigit || (cs.head? == some '0' && cs.length != 1) then
    .error .unreadableInteger
  else if Text.maxDigits < cs.length then .error .longInteger
  else
    let n : Nat := cs.foldl (fun n c => n * 10 + (c.toNat - 48)) 0
    .ok (if negative then -(n : Int) else n)

def dropPlus : List Char → List Char
  | '+' :: '-' :: cs => '+' :: '-' :: cs
  | '+' :: cs => cs
  | cs => cs

def integerOfText (s : String) : Except FieldFlaw Int :=
  let behind := s.toList.dropWhile Text.isNumberBlank
  let inner := (behind.reverse.dropWhile Text.isNumberBlank).reverse
  match dropNoughts (dropFraction (dropPlus inner)) with
  | none => .error .unreadableInteger
  | some cs =>
    match dropUnderscores cs with
    | '-' :: digits => plainInteger true digits
    | digits => plainInteger false digits

/-- A float has to lie strictly between the bounds of a signed word of 64 bits. -/
def integerOfFloat (x : Binary64) : Except FieldFlaw Int :=
  match x.fraction? with
  | none => .error .notFinite
  | some _ =>
    match x.toInt? with
    | none => .error .fractional
    | some n =>
      if -(Nat.pow 2 63 : Int) < n ∧ n < (Nat.pow 2 63 : Int) then .ok n else .error .longInteger

def toInteger : Json → Except FieldFlaw Int
  | .int n => .ok n
  | .bool b => .ok (if b then 1 else 0)
  | .float x => integerOfFloat x
  | .text s => integerOfText s
  | .torn _ => .error .tornInteger
  | _ => .error .notInteger

/-- A text may be torn. -/
def toText : Json → Except FieldFlaw (List Text.Point)
  | .text s => .ok (Text.points s)
  | .torn t => .ok t.points
  | _ => .error .notText

/-- The value of a field and the name that it was found under, first the one in camel case. -/
def find? (j : Json) (name : String) : Option (String × Json) :=
  [camelCase name, name].findSome? fun key => (j.field? key).map (key, ·)

/-- Reads a field; without a value of its own it may have one that is taken then. -/
def readField {α : Type} (j : Json) (name : String) (read : Json → Except FieldFlaw α)
    (otherwise : Option α) : Except Complaint α :=
  match find? j name with
  | some (key, v) => (read v).mapError fun flaw => ⟨flaw, [.name key], v⟩
  | none =>
    match otherwise with
    | some x => .ok x
    | none => .error ⟨.missing, [.name (camelCase name)], j⟩

def complaint? {α : Type} : Except Complaint α → Option Complaint
  | .ok _ => none
  | .error c => some c

end OpenDocs.Web
