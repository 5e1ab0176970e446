import OpenDocs.Proofs.Program.Ranges

/-!
# What symbols may be inside

A module shows classes, functions and what it assigns, a class its methods and fields, and a function
only the classes and functions in it. So the symbols of a module obey a grammar with the scope for
its state. Without what is assigned they nest as the definitions of the module do.
-/

namespace OpenDocs.Program

open Outline (Kind Symbol)

/-! ### The grammar -/

/-- The kinds of the symbols that a body may show. -/
def allowed : Scope → List Kind
  | .module => [.class, .function, .variable, .constant]
  | .classBody => [.class, .constructor, .method, .property, .field]
  | .functionBody => [.class, .function]

/-- The scope that a symbol of this kind opens. -/
def opened? : Kind → Option Scope
  | .class => some .classBody
  | .function | .method | .constructor | .property => some .functionBody
  | _ => none

/-- Every symbol is of a kind that is allowed where it stands, and what opens no scope has nothing
inside. -/
inductive Grammatical : Scope → List Symbol → Prop
  | nil {scope : Scope} : Grammatical scope []
  | leaf {scope : Scope} {x : Symbol} {rest : List Symbol} : x.kind ∈ allowed scope →
      opened? x.kind = none → x.children = [] → Grammatical scope rest →
      Grammatical scope (x :: rest)
  | definition {scope inner : Scope} {x : Symbol} {rest : List Symbol} : x.kind ∈ allowed scope →
      opened? x.kind = some inner → Grammatical inner x.children → Grammatical scope rest →
      Grammatical scope (x :: rest)

/-- A class or a function by its name and ends, with those inside it. -/
inductive DefinitionTree
  | node (opened : Scope) (name : String) (start stop : Position) (inside : List DefinitionTree)

mutual

def Statement.trees (texts : List (List Char)) : Statement → List DefinitionTree
  | .classDef e name body =>
    [.node .classBody name (positionOf texts e.start) (positionOf texts e.stop) (trees texts body)]
  | .functionDef e name _ body =>
    [.node .functionBody name (positionOf texts e.start) (positionOf texts e.stop)
      (trees texts body)]
  | _ => []

/-- The classes and functions that the statements define, in order, each with those that its body
defines. -/
def trees (texts : List (List Char)) : List Statement → List DefinitionTree
  | [] => []
  | s :: rest => s.trees texts ++ trees texts rest

end

mutual

def symbolTree : Symbol → List DefinitionTree
  | ⟨name, kind, start, stop, children⟩ =>
    match opened? kind with
    | some opened => [.node opened name start stop (symbolTrees children)]
    | none => symbolTrees children

/-- The symbols that open a scope, in order, each with those inside it. -/
def symbolTrees : List Symbol → List DefinitionTree
  | [] => []
  | x :: rest => symbolTree x ++ symbolTrees rest

end

/-! ### The symbols of one statement -/

section

variable {scope : Scope}

theorem class_mem_allowed (scope : Scope) : Kind.class ∈ allowed scope := by
  cases scope <;> decide

theorem functionKind_mem_allowed (scope : Scope) (name : String) (decorators : List Expr) :
    functionKind scope name decorators ∈ allowed scope := by
  by_cases inClass : scope = .classBody
  · rw [functionKind, if_neg (not_not_intro inClass), inClass]
    split_ifs <;> decide
  · rw [functionKind, if_pos inClass]
    cases scope with
    | module | functionBody => decide
    | classBody => exact absurd rfl inClass

theorem opened?_functionKind (scope : Scope) (name : String) (decorators : List Expr) :
    opened? (functionKind scope name decorators) = some .functionBody := by
  unfold functionKind
  split_ifs <;> rfl

theorem assignedKind_mem_allowed (shown : scope ≠ .functionBody) (name : String) :
    assignedKind scope name ∈ allowed scope := by
  cases scope with
  | module =>
    rw [assignedKind, if_neg nofun]
    split_ifs <;> decide
  | classBody =>
    rw [assignedKind, if_pos rfl]
    decide
  | functionBody => exact absurd rfl shown

theorem opened?_assignedKind (scope : Scope) (name : String) :
    opened? (assignedKind scope name) = none := by
  unfold assignedKind
  split_ifs <;> rfl

variable {first second : List Symbol}

theorem Grammatical.append (front : Grammatical scope first) (back : Grammatical scope second) :
    Grammatical scope (first ++ second) := by
  induction front with
  | nil => exact back
  | leaf kind closed alone _ ih => exact .leaf kind closed alone (ih back)
  | definition kind opens inside _ _ ih => exact .definition kind opens inside (ih back)

theorem symbolTrees_append (first second : List Symbol) :
    symbolTrees (first ++ second) = symbolTrees first ++ symbolTrees second := by
  induction first with
  | nil => rfl
  | cons x rest ih => rw [List.cons_append, symbolTrees, symbolTrees, ih, List.append_assoc]

theorem grammatical_assigned (texts : List (List Char)) (scope : Scope) (e : Extent)
    (names : List String) : Grammatical scope (assigned texts scope e names) := by
  by_cases hidden : scope = .functionBody
  · rw [assigned, if_pos hidden]
    exact .nil
  · rw [assigned, if_neg hidden]
    induction names with
    | nil => exact .nil
    | cons name rest ih =>
      exact .leaf (assignedKind_mem_allowed hidden name) (opened?_assignedKind scope name) rfl ih

theorem symbolTrees_assigned (texts : List (List Char)) (scope : Scope) (e : Extent)
    (names : List String) : symbolTrees (assigned texts scope e names) = [] := by
  unfold assigned
  split_ifs
  · rfl
  · induction names with
    | nil => rfl
    | cons name rest ih =>
      rw [List.map_cons, symbolTrees, ih, symbolAt, symbolTree, opened?_assignedKind]
      rfl

end

/-! ### The symbols of a body -/

theorem grammatical_bodySymbols (texts : List (List Char)) (scope : Scope)
    (body : List Statement) : Grammatical scope (bodySymbols texts scope body) := by
  induction body using body_induction generalizing scope with
  | nil => exact .nil
  | cons s rest inside behind =>
    apply Grammatical.append _ (behind scope)
    cases s with
    | classDef e name body => exact .definition (class_mem_allowed scope) rfl (inside _) .nil
    | functionDef e name decorators body =>
      exact .definition (functionKind_mem_allowed scope name decorators)
        (opened?_functionKind scope name decorators) (inside _) .nil
    | assignment e targets => exact grammatical_assigned texts scope e _
    | annotated e target => exact grammatical_assigned texts scope e _
    | other => exact .nil

theorem symbolTrees_bodySymbols (texts : List (List Char)) (scope : Scope)
    (body : List Statement) : symbolTrees (bodySymbols texts scope body) = trees texts body := by
  induction body using body_induction generalizing scope with
  | nil => rfl
  | cons s rest inside behind =>
    rw [bodySymbols, symbolTrees_append, behind, trees]
    congr 1
    cases s with
    | classDef e name body =>
      rw [statementSymbols, symbolTrees, symbolTrees, List.append_nil, symbolAt, symbolTree]
      exact congrArg (fun inside => [DefinitionTree.node _ _ _ _ inside]) (inside .classBody)
    | functionDef e name decorators body =>
      rw [statementSymbols, symbolTrees, symbolTrees, List.append_nil, symbolAt, symbolTree,
        opened?_functionKind]
      exact congrArg (fun inside => [DefinitionTree.node _ _ _ _ inside]) (inside .functionBody)
    | assignment e targets => exact symbolTrees_assigned texts scope e _
    | annotated e target => exact symbolTrees_assigned texts scope e _
    | other => rfl

/-- The symbols of a module obey the grammar, at every depth, and those of classes and functions are
the definitions of the module, in order and nested as they are. -/
theorem moduleSymbols_nested (texts : List (List Char)) (module : List Statement) :
    Grammatical .module (moduleSymbols texts module) ∧
      symbolTrees (moduleSymbols texts module) = trees texts module :=
  ⟨grammatical_bodySymbols texts .module module, symbolTrees_bodySymbols texts .module module⟩

end OpenDocs.Program
