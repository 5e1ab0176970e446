import OpenDocs.Proofs.Program.Nesting

/-!
# What assignments bind

An assignment puts values at the places among its targets, and a place that is a name is bound by it.
What a module or a class assigns is shown, except at places under a star.
-/

namespace OpenDocs.Program

open Outline (Kind Symbol)

/-! ### The places among targets -/

/-- A place where an assignment puts a value, or values from a star on. -/
structure Slot where
  place : Expr
  starred : Bool

namespace Slot

/-- The name that is bound. An attribute or an item of something binds none. -/
def name? (slot : Slot) : Option String :=
  match slot.place with
  | .name id => some id
  | _ => none

end Slot

mutual

def Expr.slots (starred : Bool) : Expr → List Slot
  | .tuple items | .list items => slots starred items
  | .starred value => value.slots true
  | place => [⟨place, starred⟩]

/-- The places among targets, in order, of which those under a star are marked. -/
def slots (starred : Bool) : List Expr → List Slot
  | [] => []
  | e :: es => e.slots starred ++ slots starred es

end

/-- The names that assigning to the targets binds, in order. -/
def boundNames (targets : List Expr) : List String :=
  (slots false targets).filterMap (·.name?)

/-- The targets that a target is made of. -/
def Expr.parts : Expr → List Expr
  | .tuple items | .list items => items
  | .starred value => [value]
  | _ => []

section

variable {motive : List Expr → Prop}

mutual

theorem part_induction (nil : motive [])
    (cons : ∀ e es, motive e.parts → motive es → motive (e :: es)) : ∀ e : Expr, motive e.parts
  | .tuple items => target_induction nil cons items
  | .list items => target_induction nil cons items
  | .starred value => cons value [] (part_induction nil cons value) nil
  | .name _ | .attribute _ _ | .subscript _ | .call _ | .other => nil

/-- What holds of no targets, and of a target and those behind it if of its parts and of those
behind it, holds of all targets. -/
@[elab_as_elim]
theorem target_induction (nil : motive [])
    (cons : ∀ e es, motive e.parts → motive es → motive (e :: es)) : ∀ targets, motive targets
  | [] => nil
  | e :: es => cons e es (part_induction nil cons e) (target_induction nil cons es)

end

end

/-! ### Names under a star -/

theorem starred_of_mem_slots {targets : List Expr} {slot : Slot}
    (met : slot ∈ slots true targets) : slot.starred = true := by
  induction targets using target_induction with
  | nil => cases met
  | cons e es inside behind =>
    obtain own | later := List.mem_append.mp met
    · cases e with
      | tuple items | list items => exact inside own
      | starred value => exact inside (List.mem_append_left _ own)
      | _ => exact congrArg Slot.starred (List.mem_singleton.mp own)
    · exact behind later

/-- What is shown are the names of the places that are not under a star. -/
theorem targetNamesAll_eq (targets : List Expr) : targetNamesAll targets =
    ((slots false targets).filter (!·.starred)).filterMap (·.name?) := by
  induction targets using target_induction with
  | nil => rfl
  | cons e es inside behind =>
    rw [targetNamesAll, slots, List.filter_append, List.filterMap_append, behind]
    congr 1
    cases e with
    | tuple items | list items => exact inside
    | starred value =>
      have none : (value.slots true).filter (!·.starred) = [] := by
        rw [List.filter_eq_nil_iff]
        intro slot met
        have inside : slot ∈ slots true [value] := List.mem_append_left _ met
        rw [starred_of_mem_slots inside]
        decide
      rw [Expr.slots, none]
      rfl
    | _ => rfl

/-- Elements can be dropped without losing a value just if they have none. -/
theorem filterMap_filter_eq_iff {α β : Type} {keep : α → Bool} {value? : α → Option β}
    {xs : List α} : (xs.filter keep).filterMap value? = xs.filterMap value? ↔
      ∀ x ∈ xs, keep x = false → value? x = none := by
  induction xs with
  | nil => exact iff_of_true rfl nofun
  | cons x xs ih =>
    rw [List.forall_mem_cons, ← ih]
    cases kept : keep x with
    | true =>
      rw [List.filter_cons_of_pos kept, List.filterMap_cons, List.filterMap_cons]
      cases value? x <;> simp
    | false =>
      rw [List.filter_cons_of_neg (ne_true_of_eq_false kept)]
      cases here : value? x with
      | none => simp [List.filterMap_cons_none here]
      | some value =>
        refine iff_of_false (fun same => ?_) fun both => nomatch both.1 rfl
        -- one value more is on the right
        have fewer := (List.filter_sublist (p := keep) (l := xs)).filterMap value? |>.length_le
        rw [same, List.filterMap_cons_some here, List.length_cons] at fewer
        exact Nat.not_succ_le_self _ fewer

/-! ### Bodies and what is shown of them -/

namespace Statement

/-- The scope of the statement's body, if it is the body of a class or a function. -/
def opened? : Statement → Option Scope
  | .classDef .. => some .classBody
  | .functionDef .. => some .functionBody
  | _ => none

/-- The targets that the statement assigns to. -/
def targets? : Statement → Option (List Expr)
  | .assignment _ targets => some targets
  | .annotated _ target => some [target]
  | _ => none

end Statement

/-- The bodies of the classes and functions among the statements and in them, with their scopes. -/
def openedBodies (body : List Statement) : List (Scope × List Statement) :=
  (preorder body).filterMap fun s => s.opened?.map (·, s.body)

/-- What is inside those of the symbols, and of the symbols in them, that open a scope. -/
def openedRows (symbols : List Symbol) : List (Scope × List Symbol) :=
  (Symbol.preorders symbols).filterMap fun x => (opened? x.kind).map (·, x.children)

/-- The bodies in a module, its own first. -/
def bodies (module : List Statement) : List (Scope × List Statement) :=
  (.module, module) :: openedBodies module

/-- The rows of symbols, the outermost first. -/
def rows (symbols : List Symbol) : List (Scope × List Symbol) :=
  (.module, symbols) :: openedRows symbols

theorem openedBodies_cons (s : Statement) (rest : List Statement) :
    openedBodies (s :: rest) =
      (s.opened?.map (·, s.body)).toList ++ (openedBodies s.body ++ openedBodies rest) := by
  rw [openedBodies, preorder_cons, List.filterMap_cons, List.filterMap_append]
  cases s.opened? <;> rfl

theorem openedRows_cons (x : Symbol) (rest : List Symbol) :
    openedRows (x :: rest) =
      ((opened? x.kind).map (·, x.children)).toList ++ (openedRows x.children ++ openedRows rest) := by
  rw [openedRows, Symbol.preorders_cons, List.filterMap_cons, List.filterMap_append]
  cases opened? x.kind <;> rfl

theorem openedRows_append (first second : List Symbol) :
    openedRows (first ++ second) = openedRows first ++ openedRows second := by
  rw [openedRows, Symbol.preorders_append, List.filterMap_append]
  rfl

section

variable (texts : List (List Char))

theorem bodySymbols_append (scope : Scope) (first second : List Statement) :
    bodySymbols texts scope (first ++ second) =
      bodySymbols texts scope first ++ bodySymbols texts scope second := by
  induction first with
  | nil => rfl
  | cons s rest ih => rw [List.cons_append, bodySymbols, bodySymbols, ih, List.append_assoc]

/-- The row that is shown for a body. -/
def rowOf (b : Scope × List Statement) : Scope × List Symbol :=
  (b.1, bodySymbols texts b.1 b.2)

theorem openedRows_assigned (scope : Scope) (e : Extent) (names : List String) :
    openedRows (assigned texts scope e names) = [] := by
  unfold assigned
  split_ifs
  · rfl
  · induction names with
    | nil => rfl
    | cons name rest ih =>
      rw [List.map_cons, openedRows_cons, ih, symbolAt, opened?_assignedKind]
      rfl

theorem openedRows_symbolAt {kind : Kind} {inner : Scope} (opens : opened? kind = some inner)
    (e : Extent) (name : String) (body : List Statement) :
    openedRows [symbolAt texts e name kind (bodySymbols texts inner body)] =
      rowOf texts (inner, body) :: openedRows (bodySymbols texts inner body) := by
  rw [openedRows_cons, symbolAt, opens]
  exact congrArg (List.cons _) (List.append_nil _)

theorem openedRows_bodySymbols (scope : Scope) (body : List Statement) :
    openedRows (bodySymbols texts scope body) = (openedBodies body).map (rowOf texts) := by
  induction body using body_induction generalizing scope with
  | nil => rfl
  | cons s rest inside behind =>
    rw [bodySymbols, openedRows_append, behind, openedBodies_cons, List.map_append, List.map_append,
      ← List.append_assoc]
    congr 1
    cases s with
    | classDef e name body =>
      rw [statementSymbols, openedRows_symbolAt texts rfl]
      exact congrArg (List.cons _) (inside .classBody)
    | functionDef e name decorators body =>
      rw [statementSymbols, openedRows_symbolAt texts (opened?_functionKind scope name decorators)]
      exact congrArg (List.cons _) (inside .functionBody)
    | assignment e targets => exact openedRows_assigned texts scope e _
    | annotated e target => exact openedRows_assigned texts scope e _
    | other => rfl

/-- The rows are those of the bodies. -/
theorem rows_moduleSymbols (module : List Statement) :
    rows (moduleSymbols texts module) = (bodies module).map (rowOf texts) := by
  rw [rows, moduleSymbols, openedRows_bodySymbols]
  rfl

theorem names_statementSymbols {scope : Scope} (shown : scope ≠ .functionBody) {s : Statement}
    {targets : List Expr} (assigns : s.targets? = some targets) :
    (statementSymbols texts scope s).map (·.name) = targetNamesAll targets := by
  have named (e : Extent) (names : List String) :
      (assigned texts scope e names).map (·.name) = names := by
    rw [assigned, if_neg shown, List.map_map]
    exact List.map_id names
  cases s with
  | classDef | functionDef | other => cases assigns
  | assignment e targets =>
    obtain rfl := Option.some.inj assigns
    exact named e _
  | annotated e target =>
    obtain rfl := Option.some.inj assigns
    exact (named e _).trans (List.append_nil _).symm

end

/-- Where a module or a class assigns, the row for the body shows, between the symbols of the other
statements, the names that the assignment binds at places without a star, in order. They are all that
it binds just if it binds no name under a star. -/
theorem names_of_targets (texts : List (List Char)) (module : List Statement) {i : Nat}
    {scope : Scope} {before after : List Statement} {s : Statement} {targets : List Expr}
    (held : (bodies module)[i]? = some (scope, before ++ s :: after))
    (shown : scope ≠ .functionBody) (assigns : s.targets? = some targets) :
    (rows (moduleSymbols texts module))[i]? =
        some (scope, bodySymbols texts scope before ++
          (statementSymbols texts scope s ++ bodySymbols texts scope after)) ∧
    (statementSymbols texts scope s).map (·.name) =
        ((slots false targets).filter (!·.starred)).filterMap (·.name?) ∧
    ((statementSymbols texts scope s).map (·.name) = boundNames targets ↔
      ∀ slot ∈ slots false targets, slot.starred = true → slot.name? = none) := by
  have names := names_statementSymbols texts shown assigns
  rw [targetNamesAll_eq] at names
  refine ⟨?_, names, ?_⟩
  · rw [rows_moduleSymbols, List.getElem?_map, held, Option.map_some, rowOf, bodySymbols_append]
    rfl
  · rw [names, boundNames, filterMap_filter_eq_iff]
    simp only [Bool.not_eq_false']

/-- Two targets in a class in a function: places in places, an attribute, and an item under a star. -/
theorem names_of_targets_in_places : ∃ shown : List Symbol,
    (rows (moduleSymbols [] [.functionDef default "f" [] [.classDef default "C" [.other,
      .assignment default [.list [.name "a", .attribute (.name "x") "y"],
        .tuple [.name "b", .starred (.list [.subscript (.name "z")]), .name "a"]]]]]))[2]? =
      some (.classBody, shown) ∧ shown.map (·.name) = ["a", "b", "a"] := by
  have held : (bodies [.functionDef default "f" [] [.classDef default "C" [.other,
      .assignment default [.list [.name "a", .attribute (.name "x") "y"],
        .tuple [.name "b", .starred (.list [.subscript (.name "z")]), .name "a"]]]]])[2]? =
      some (.classBody, [.other] ++ .assignment default [.list [.name "a", .attribute (.name "x") "y"],
        .tuple [.name "b", .starred (.list [.subscript (.name "z")]), .name "a"]] :: []) := rfl
  obtain ⟨row, _, complete⟩ := names_of_targets [] _ held nofun rfl
  exact ⟨_, row, complete.mpr (by decide)⟩

/-- A name under a star is bound and is not shown. -/
theorem moduleSymbols_of_starred_name :
    (moduleSymbols [] [.assignment default [.tuple [.name "a", .starred (.name "b")]]]).map
      (·.name) = ["a"] ∧ boundNames [.tuple [.name "a", .starred (.name "b")]] = ["a", "b"] := by
  decide

end OpenDocs.Program
