import OpenDocs.Outline.Symbol
import OpenDocs.Program.Statement
import OpenDocs.Text.Case
import OpenDocs.Text.Lines

/-!
# The outline of a program

Classes and functions are shown with what is defined in them, and the names that a module or a
class assigns. The columns of statements, counted in bytes, become columns in code points.
-/

namespace OpenDocs.Program

inductive Scope where
  | module | classBody | functionBody
  deriving DecidableEq

/-- The column in code points of a byte column: how many code points end at or before it. -/
def columnOf : List Char → Nat → Nat
  | [], _ => 0
  | c :: cs, byte => if c.utf8Size ≤ byte then columnOf cs (byte - c.utf8Size) + 1 else 0

def positionOf (lines : List (List Char)) (p : Place) : Position :=
  ⟨p.line, columnOf (lines[p.line]?.getD []) p.byte⟩

def isAccessor : Expr → Bool
  | .name id => id == "property" || id == "cached_property"
  | .attribute _ name => name == "setter" || name == "getter" || name == "deleter"
  | _ => false

def functionKind (scope : Scope) (name : String) (decorators : List Expr) : Outline.Kind :=
  if scope ≠ .classBody then .function
  else if name = "__init__" then .constructor
  else if decorators.any isAccessor then .property
  else .method

def assignedKind (scope : Scope) (name : String) : Outline.Kind :=
  if scope = .classBody then .field
  else if Text.allUpper name.toList then .constant
  else .variable

mutual

/-- The names among a target, in order. -/
def targetNames : Expr → List String
  | .name id => [id]
  | .tuple items | .list items => targetNamesAll items
  | _ => []

def targetNamesAll : List Expr → List String
  | [] => []
  | e :: es => targetNames e ++ targetNamesAll es

end

section
variable (lines : List (List Char))

def symbolAt (extent : Extent) (name : String) (kind : Outline.Kind)
    (children : List Outline.Symbol) : Outline.Symbol :=
  ⟨name, kind, positionOf lines extent.start, positionOf lines extent.stop, children⟩

def assigned (scope : Scope) (extent : Extent) (names : List String) : List Outline.Symbol :=
  if scope = .functionBody then []
  else names.map fun name => symbolAt lines extent name (assignedKind scope name) []

mutual

def statementSymbols (scope : Scope) : Statement → List Outline.Symbol
  | .classDef extent name body =>
    [symbolAt lines extent name .class (bodySymbols .classBody body)]
  | .functionDef extent name decorators body =>
    [symbolAt lines extent name (functionKind scope name decorators)
      (bodySymbols .functionBody body)]
  | .assignment extent targets => assigned lines scope extent (targetNamesAll targets)
  | .annotated extent target => assigned lines scope extent (targetNames target)
  | .other => []

def bodySymbols (scope : Scope) : List Statement → List Outline.Symbol
  | [] => []
  | s :: rest => statementSymbols scope s ++ bodySymbols scope rest

end

end

/-- The symbols of a module whose text has these lines. -/
def moduleSymbols (lines : List (List Char)) (body : List Statement) : List Outline.Symbol :=
  bodySymbols lines .module body

end OpenDocs.Program
