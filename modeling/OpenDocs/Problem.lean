import OpenDocs.Position
import OpenDocs.Json.Basic
import OpenDocs.Text.Quoted

/-!
# Problems told to a client

A problem says what is wrong with a request about the open documents. Each has a code, a message
and details that a program can read. A few have no message, and something else comes up instead.
-/

namespace OpenDocs

inductive Coordinate where
  | line | character
  deriving DecidableEq

def Coordinate.name : Coordinate → String
  | .line => "line"
  | .character => "character"

/-- What comes up where something cannot be told or made. -/
inductive Mishap where
  /-- A whole number has more digits than are converted. -/
  | longNumber
  /-- A sequence fails when it is gone through. -/
  | unlisted
  | noDepthLimit
  /-- There are more nodes below one another than there is room for. -/
  | nesting
  deriving DecidableEq

/-- Why a position or range is refused, by itself or against a text. -/
inductive RangeFlaw where
  | unlisted
  | notInteger (coordinate : Coordinate)
  | negative (coordinate : Coordinate) (number : Int)
  | positionKeys
  | positionSize
  | positionShape
  | rangeMissing
  | rangeKeys
  | rangeSize
  | rangeShape
  | inverted (start stop : Position)
  | offsetOutside (offset : String) (length : Nat)
  | offsetsInverted (start stop : Nat) (place : Position)
  | stopOutside (stop length : Nat) (place : Position)
  | noLine (place : Position) (count : Nat)
  | pastLine (place : Position) (width : Nat)
  | other (message reason : String) (place : Option (Int × Int)) (limit : Option Int)
  deriving DecidableEq

namespace RangeFlaw

def pair (p : Position) : String := s!"({p.line}, {p.character})"

/-- What is said, unless `mishap?` comes up instead. -/
def message : RangeFlaw → String
  | unlisted => "The sequence cannot be gone through"
  | notInteger c => s!"Position {c.name} must be an integer"
  | negative c n => s!"Position {c.name} must not be negative (got {n})"
  | positionKeys => "Position mappings require line and character keys"
  | positionSize => "Position sequences must have exactly two entries"
  | positionShape => "Unsupported Position input"
  | rangeMissing => "Range value is required"
  | rangeKeys => "Range mappings require start and end keys"
  | rangeSize => "Range sequences must have two or four entries"
  | rangeShape => "Unsupported Range input"
  | inverted start stop => s!"Range start {pair start} is after end {pair stop}"
  | offsetOutside offset length => s!"Offset {offset} is outside the document (length {length})"
  | offsetsInverted start stop _ => s!"Start offset {start} is after end offset {stop}"
  | stopOutside stop length _ => s!"End offset {stop} exceeds document length {length}"
  | noLine p count => s!"Line {p.line} is outside the document ({count} lines)"
  | pastLine p width =>
    s!"Character {p.character} is past the end of line {p.line} (max {width})"
  | other message .. => message

/-- The bound that is violated. -/
def reason : RangeFlaw → String
  | negative .. => "negative"
  | inverted .. | offsetsInverted .. => "order"
  | offsetOutside .. | stopOutside .. => "overflow"
  | noLine .. => "line"
  | pastLine .. => "character"
  | other _ reason .. => reason
  | _ => "invalid"

def place? : RangeFlaw → Option (Int × Int)
  | inverted p _ | offsetsInverted _ _ p | stopOutside _ _ p | noLine p _ | pastLine p _ =>
    some (p.line, p.character)
  | other _ _ place _ => place
  | _ => none

def limit? : RangeFlaw → Option Int
  | offsetOutside _ length => some length
  | offsetsInverted _ stop _ => some stop
  | stopOutside _ length _ => some length
  | noLine _ count => some (count - 1)
  | pastLine _ width => some width
  | other _ _ _ limit => limit
  | _ => none

def details (f : RangeFlaw) : List (String × Json) :=
  [("reason", .text f.reason)]
    ++ (f.place?.map fun (l, c) => ("position", Json.ofPosition l c)).toList
    ++ (f.limit?.map fun n => ("limit", .int n)).toList

/-- The given numbers that the message says. -/
def numbers : RangeFlaw → List Int
  | negative _ n => [n]
  | inverted start stop => start.numbers ++ stop.numbers
  | noLine p _ => [p.line]
  | pastLine p _ => p.numbers
  | _ => []

def mishap? : RangeFlaw → Option Mishap
  | unlisted => some .unlisted
  | offsetOutside offset _ => if Json.isLongText offset then some .longNumber else none
  | f => if f.numbers.any Json.isLong then some .longNumber else none

theorem any_isLong_eq_false {f : RangeFlaw} (short : ∀ n ∈ f.numbers, Json.isLong n = false) :
    f.numbers.any Json.isLong = false :=
  List.any_eq_false.mpr fun n said => by simp [short n said]

theorem mishap?_eq {f : RangeFlaw} (gone : f ≠ .unlisted) (fit : f.reason ≠ "overflow") :
    f.mishap? = if f.numbers.any Json.isLong then some .longNumber else none := by
  cases f with
  | unlisted => exact absurd rfl gone
  | offsetOutside => exact absurd rfl fit
  | _ => rfl

end RangeFlaw

/-- Why a symbol that a backend reports is no outline entry. -/
inductive SymbolFlaw where
  | unlisted
  | notSequence (found : String)
  | tooDeep (limit : String)
  | empty
  | nameless
  | noRange (name : String)
  | badRange (name : String) (flaw : RangeFlaw)
  | other (message : String)
  deriving DecidableEq

namespace SymbolFlaw

def message : SymbolFlaw → String
  | unlisted => "The sequence cannot be gone through"
  | notSequence found => s!"Symbol children must be a sequence, got {found}"
  | tooDeep limit => s!"Symbol tree is nested deeper than {limit} levels"
  | empty => "Symbol entry is empty"
  | nameless => "Symbol name must be a string"
  | noRange name => s!"Symbol {Text.quote name} has no range"
  | badRange name flaw => s!"Symbol {Text.quote name} has an invalid range: {flaw.message}"
  | other message => message

def mishap? : SymbolFlaw → Option Mishap
  | unlisted => some .unlisted
  | tooDeep limit => if Json.isLongText limit then some .longNumber else none
  | badRange _ flaw => flaw.mishap?
  | _ => none

end SymbolFlaw

inductive Problem where
  | general (message : String)
  | noSuchTab (identifier : String) (message : Option String)
  | range (flaw : RangeFlaw)
  /-- The path gives the child indices from the outermost list to the symbol. -/
  | symbol (flaw : SymbolFlaw) (path : List Nat)
  deriving DecidableEq

namespace Problem

def code : Problem → String
  | general _ => "internal_error"
  | noSuchTab .. => "tab_not_found"
  | range _ => "range_error"
  | symbol .. => "symbol_format"

/-- An empty message of its own counts as none. -/
def message : Problem → String
  | general message => message
  | noSuchTab identifier message =>
    match message with
    | none | some "" => s!"No such tab: {identifier}"
    | some m => m
  | range flaw => flaw.message
  | symbol flaw _ => flaw.message

def details : Problem → List (String × Json)
  | general _ => []
  | noSuchTab identifier _ => [("identifier", .text identifier)]
  | range flaw => flaw.details
  | symbol _ path => if path.isEmpty then [] else [("path", Json.nats path)]

/-- What comes up instead of the problem. -/
def mishap? : Problem → Option Mishap
  | range flaw => flaw.mishap?
  | symbol flaw _ => flaw.mishap?
  | _ => none

/-- The problem as a response body; details are left out when there are none. -/
def report (p : Problem) : Json :=
  .record ([("error", .text p.code), ("message", .text p.message)]
    ++ if p.details.isEmpty then [] else [("details", .record p.details)])

end Problem

end OpenDocs
