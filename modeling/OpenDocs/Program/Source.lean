import OpenDocs.Program.Grammar
import OpenDocs.Program.Lexer
import OpenDocs.Program.Literal
import OpenDocs.Program.Statement
import OpenDocs.Text.Compatibility

/-!
# Parsing a program

The statements of a text, if the text is a program: its tokens match the grammar, its numbers can
be read, and the expressions within its formatted strings are expressions.
-/

namespace OpenDocs.Program

/-- The runs of neighbouring string literals. -/
def stringRuns : List Token → List (List Literal)
  | [] => []
  | t :: ts =>
    if t.kind = .string then
      let l := Literal.ofText t.text.toList
      match ts, stringRuns ts with
      | next :: _, run :: runs =>
        if next.kind = .string then (l :: run) :: runs else [l] :: run :: runs
      | _, runs => [l] :: runs
    else stringRuns ts

/-- Whether numbers and strings can be read; `fuel` bounds how deep formatted strings nest. -/
def literalsHold : Nat → Array Token → Bool
  | 0, _ => false
  | fuel + 1, tokens =>
    tokens.all (fun t => t.kind != .number || isReadable t.text)
      && (stringRuns tokens.toList).all fun run =>
        match joinedExpressions? run with
        | none => false
        | some expressions => expressions.all fun e =>
          match tokens? (normalizeFrom ('(' :: e ++ [')'])) with
          | none => false
          | some inner =>
            (parse? Rule.pattern? inner .starExpressions).isSome && literalsHold fuel inner

section
variable (tokens : Array Token)

def nameAt (i : Nat) : String :=
  Text.identifierForm ((tokens[i]?.map (·.text)).getD "")

/-- The place where the last visible token before `i` ends. -/
def stopBefore : Nat → Place
  | 0 => ⟨0, 0⟩
  | i + 1 =>
    match tokens[i]? with
    | some t => if t.isVisible then t.stop else stopBefore i
    | none => stopBefore i

def extentOf (first last : Nat) : Extent :=
  ⟨(tokens[first]?.map (·.start)).getD ⟨0, 0⟩, stopBefore tokens last⟩

mutual

def exprOf : Tree → Expr
  | .node .identifier first _ _ => .name (nameAt tokens first)
  | .node .primary _ _ children => primaryOf .other children
  | .node .tuple _ _ children => .tuple (exprsOf children)
  | .node .list _ _ children => .list (exprsOf children)
  | .node .starred _ _ [value] => .starred (exprOf value)
  | _ => .other

def exprsOf : List Tree → List Expr
  | [] => []
  | t :: ts => exprOf t :: exprsOf ts

/-- Applies the suffixes of a primary to what is before them. -/
def primaryOf (value : Expr) : List Tree → Expr
  | [] => value
  | .node .attribute first _ _ :: rest =>
    primaryOf (.attribute value (nameAt tokens (first + 1))) rest
  | .node .subscript _ _ _ :: rest => primaryOf (.subscript value) rest
  | .node .call _ _ _ :: rest => primaryOf (.call value) rest
  | t :: rest => primaryOf (exprOf t) rest

end

mutual

def statementOf (decorators : List Expr) : Tree → Statement
  | .node .classDef first last (.node _ name _ _ :: body) =>
    .classDef (extentOf tokens first last) (nameAt tokens name) (statementsOf body)
  | .node .functionDef first last (.node _ name _ _ :: body) =>
    .functionDef (extentOf tokens first last) (nameAt tokens name) decorators (statementsOf body)
  | .node .decorated _ _ [.node _ _ _ found, definition] =>
    statementOf (exprsOf tokens found) definition
  | .node .assignment first last targets =>
    .assignment (extentOf tokens first last) (exprsOf tokens targets)
  | .node .annotated first last [target] =>
    .annotated (extentOf tokens first last) (exprOf tokens target)
  | _ => .other

def statementsOf : List Tree → List Statement
  | [] => []
  | t :: ts => statementOf [] t :: statementsOf ts

end

end

def parse (text : List Char) : Option (List Statement) := do
  let tokens ← tokens? (normalizeFrom text)
  let trees ← parse? Rule.pattern? tokens .file
  if literalsHold (text.length + 1) tokens then some (statementsOf tokens trees) else none

end OpenDocs.Program
