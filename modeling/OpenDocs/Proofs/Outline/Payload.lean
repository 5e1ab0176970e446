import OpenDocs.Proofs.Outline.Mirror
import OpenDocs.Proofs.Outline.Walk
import Mathlib.Data.List.Nodup

/-!
# Outlines as JSON

The JSON of an outline is gone through like the outline, a value before those below it. This meets
the same nodes at the same places and depths, and what the values say is enough to write the text.
There is such JSON for every outline, and it is made wherever there is room for all levels.
-/

namespace OpenDocs

namespace Json

/-- The values that a value lists as its children. -/
def nested (v : Json) : List Json :=
  match v.field? "children" with
  | some (.list items) => items
  | _ => []

theorem mem_of_lookup {key : String} {fields : List (String × Json)} {v : Json}
    (held : fields.lookup key = some v) : (key, v) ∈ fields := by
  obtain ⟨before, behind, rfl, _⟩ := List.lookup_eq_some_iff.mp held
  simp

theorem sizeOf_of_field? {key : String} {v w : Json} (held : v.field? key = some w) :
    sizeOf w < sizeOf v := by
  cases v with
  | record fields =>
    have smaller := List.sizeOf_lt_of_mem (mem_of_lookup held)
    simp only [Prod.mk.sizeOf_spec] at smaller
    simp only [record.sizeOf_spec]
    omega
  | mixed keys values =>
    obtain ⟨⟨k, v⟩, listed, same⟩ := List.mem_filterMap.mp (mem_of_lookup held)
    obtain ⟨name, _, same⟩ := Option.map_eq_some_iff.mp same
    obtain ⟨_, rfl⟩ := Prod.mk.inj same
    have smaller := List.sizeOf_lt_of_mem (List.of_mem_zip listed).2
    simp only [mixed.sizeOf_spec]
    omega
  | _ => cases held

theorem sizeOf_nested_le (v : Json) : sizeOf v.nested ≤ sizeOf v := by
  rw [nested]
  split
  · next items listed =>
    have smaller := sizeOf_of_field? listed
    simp only [list.sizeOf_spec] at smaller
    omega
  · cases v <;> simp +arith

def text? : Json → Option String
  | .text s => some s
  | _ => none

def number? : Json → Option Nat
  | .int (.ofNat n) => some n
  | _ => none

end Json

namespace Outline

mutual

def Node.report : Node → Json
  | ⟨name, kind, range, children⟩ =>
    .record [("name", .text name), ("kind", .text kind.label), ("range", range.report),
      ("children", .list (reports children))]

/-- The JSON of all nodes, however many are below one another. -/
def reports : List Node → List Json
  | [] => []
  | node :: rest => node.report :: reports rest

end

/-- The values of a payload with their depths, each before those below it. -/
def visit (depth : Nat) : List Json → List (Nat × Json)
  | [] => []
  | v :: rest => (depth, v) :: (visit (depth + 1) v.nested ++ visit depth rest)
termination_by payload => sizeOf payload
decreasing_by
  · have smaller := v.sizeOf_nested_le
    simp only [List.cons.sizeOf_spec]
    omega
  · simp +arith

/-- What is said of a node by itself. -/
structure Entry where
  label : String
  name : String
  startLine : Nat
  startCharacter : Nat
  stopLine : Nat
  stopCharacter : Nat
  deriving DecidableEq

namespace Entry

def ofNode (n : Node) : Entry :=
  ⟨n.kind.label, n.name, n.range.start.line, n.range.start.character, n.range.stop.line,
    n.range.stop.character⟩

def ofJson? (v : Json) : Option Entry := do
  let label ← (← v.field? "kind").text?
  let name ← (← v.field? "name").text?
  let range ← v.field? "range"
  let start ← range.field? "start"
  let stop ← range.field? "end"
  pure ⟨label, name, ← (← start.field? "line").number?, ← (← start.field? "character").number?,
    ← (← stop.field? "line").number?, ← (← stop.field? "character").number?⟩

def line (indent : String) (depth : Nat) (e : Entry) : String :=
  indent ++ String.ofList (List.replicate (2 * depth) ' ') ++ e.label ++ " " ++ e.name ++ " " ++
    s!"[{e.startLine},{e.startCharacter}-{e.stopLine},{e.stopCharacter}]" ++ "\n"

theorem ofJson?_report (n : Node) : ofJson? n.report = some (ofNode n) := by
  cases n
  rfl

theorem line_ofNode (indent : String) (depth : Nat) (n : Node) :
    (ofNode n).line indent depth = n.line indent depth := rfl

end Entry

theorem reports_eq_map (nodes : List Node) : reports nodes = nodes.map Node.report := by
  induction nodes with
  | nil => rfl
  | cons node rest ih => rw [reports, ih, List.map_cons]

theorem reportWithin_eq_some_iff {room : Nat} {node : Node} {v : Json} :
    node.reportWithin room = some v ↔ ∃ room' below, room = room' + 1 ∧
      reportsWithin room' node.children = some below ∧
      v = .record [("name", .text node.name), ("kind", .text node.kind.label),
        ("range", node.range.report), ("children", .list below)] := by
  cases node
  cases room with
  | zero => simp [Node.reportWithin]
  | succ room => simp [Node.reportWithin, @eq_comm _ v]

theorem reportsWithin_eq_some_iff {room : Nat} {nodes : List Node} {values : List Json} :
    reportsWithin room nodes = some values ↔ height nodes ≤ room ∧ values = reports nodes := by
  induction nodes using outline_induction generalizing room values with
  | nil => simp [reportsWithin, height, reports, eq_comm]
  | cons node rest below beside =>
    simp only [reportsWithin, Option.bind_eq_bind, Option.bind_eq_some_iff,
      reportWithin_eq_some_iff, below, beside, height_cons, reports]
    cases node
    constructor
    · rintro ⟨_, ⟨room, _, rfl, ⟨low, rfl⟩, rfl⟩, _, ⟨low', rfl⟩, ⟨⟩⟩
      exact ⟨Nat.max_le.mpr ⟨Nat.succ_le_succ low, low'⟩, rfl⟩
    · rintro ⟨low, rfl⟩
      obtain ⟨first, behind⟩ := Nat.max_le.mp low
      obtain ⟨room, rfl⟩ := Nat.exists_eq_succ_of_ne_zero (Nat.ne_zero_of_lt first)
      exact ⟨_, ⟨room, _, rfl, ⟨Nat.le_of_succ_le_succ first, rfl⟩, rfl⟩, _, ⟨behind, rfl⟩, rfl⟩

theorem nested_report (n : Node) : n.report.nested = reports n.children := by
  cases n
  rfl

theorem visit_reports (depth : Nat) (nodes : List Node) :
    visit depth (reports nodes) = (walk depth nodes).map fun x => (x.1, x.2.report) := by
  induction nodes using outline_induction generalizing depth with
  | nil => rw [walk_nil, reports, visit, List.map_nil]
  | cons node rest below beside =>
    rw [walk_cons, reports, visit, nested_report, below, beside, List.map_cons, List.map_append]

/-- The text of an outline, written from its payload alone. -/
def textOf? (indent : String) (payload : List Json) : Option String :=
  ((visit 0 payload).mapM fun x => (Entry.ofJson? x.2).map (·.line indent x.1)).map String.join

theorem textOf?_reports (indent : String) (nodes : List Node) :
    textOf? indent (reports nodes) = some (render nodes indent) := by
  have lines : (visit 0 (reports nodes)).mapM
      (fun x => (Entry.ofJson? x.2).map (·.line indent x.1)) =
        some ((walk 0 nodes).map fun x => x.2.line indent x.1) := by
    rw [visit_reports, List.mapM_map]
    simp only [Function.comp_def, Entry.ofJson?_report, Option.map_some, Entry.line_ofNode]
    exact List.mapM_pure
  rw [textOf?, lines]
  rfl

/-! ### Places -/

section

variable {α : Type} (below : α → List α)

/-- The item that is reached by the numbers of items among those beside them, level by level. -/
def descend? (x : α) : List Nat → Option α
  | [] => some x
  | i :: path => (below x)[i]?.bind fun y => descend? y path

def itemAt? (items : List α) : List Nat → Option α
  | [] => none
  | i :: path => items[i]?.bind fun x => descend? below x path

/-- Each item is met once, at a depth that goes with its place. -/
structure MeetsAll (items : List α) (places : List (List Nat)) (met : List (Nat × α)) : Prop where
  once : places.Nodup
  all : ∀ path, path ∈ places ↔ (itemAt? below items path).isSome
  each : List.Forall₂ (fun path x => itemAt? below items path = some x.2 ∧ path.length = x.1 + 1)
    places met

end

mutual

/-- The places in a node, its own first. -/
def Node.places : Node → List (List Nat)
  | ⟨_, _, _, children⟩ => [] :: places 0 children

/-- The places of the nodes, of which the first is numbered `first`, in the order of the walk. -/
def places (first : Nat) : List Node → List (List Nat)
  | [] => []
  | node :: rest => node.places.map (first :: ·) ++ places (first + 1) rest

end

theorem places_cons (first : Nat) (node : Node) (rest : List Node) :
    places first (node :: rest) =
      [first] :: ((places 0 node.children).map (first :: ·) ++ places (first + 1) rest) := by
  cases node
  rfl

/-- A path leads to an item behind the first ones. -/
theorem mem_places_iff {first : Nat} {nodes : List Node} {path : List Nat} :
    path ∈ places first nodes ↔
      ∃ i more, path = (first + i) :: more ∧ (itemAt? Node.children nodes (i :: more)).isSome := by
  induction nodes using outline_induction generalizing first path with
  | nil => simp [places, itemAt?]
  | cons node rest below beside =>
    rw [places_cons, List.mem_cons, List.mem_append, List.mem_map, beside]
    constructor
    · rintro (rfl | ⟨inner, listed, rfl⟩ | ⟨i, more, rfl, found⟩)
      · exact ⟨0, [], rfl, rfl⟩
      · obtain ⟨i, more, rfl, found⟩ := below.mp listed
        refine ⟨0, _, rfl, ?_⟩
        rw [Nat.zero_add]
        exact found
      · exact ⟨i + 1, more, by rw [Nat.add_assoc, Nat.add_comm 1], found⟩
    · rintro ⟨i, more, rfl, found⟩
      cases i with
      | zero =>
        cases more with
        | nil => exact .inl rfl
        | cons j more =>
          exact .inr (.inl ⟨j :: more, below.mpr ⟨j, more, by rw [Nat.zero_add], found⟩, rfl⟩)
      | succ i =>
        exact .inr (.inr ⟨i, more, by rw [Nat.add_assoc, Nat.add_comm 1], found⟩)

theorem nodup_places (first : Nat) (nodes : List Node) : (places first nodes).Nodup := by
  induction nodes using outline_induction generalizing first with
  | nil => exact List.nodup_nil
  | cons node rest below beside =>
    rw [places_cons, List.nodup_cons, List.mem_append, List.nodup_append]
    refine ⟨?_, List.Nodup.map List.cons_injective (below 0), beside _, ?_⟩
    · rintro (inside | later)
      · obtain ⟨inner, listed, same⟩ := List.mem_map.mp inside
        obtain ⟨i, more, rfl, _⟩ := mem_places_iff.mp listed
        simp at same
      · obtain ⟨i, more, same, _⟩ := mem_places_iff.mp later
        have number := (List.cons.inj same).1
        omega
    · rintro path inside other later rfl
      obtain ⟨inner, _, rfl⟩ := List.mem_map.mp inside
      obtain ⟨i, more, same, _⟩ := mem_places_iff.mp later
      have number := (List.cons.inj same).1
      omega

/-- The walk meets at each place, in turn, the node that is there. -/
theorem walk_meets_places (depth first : Nat) (nodes : List Node) :
    List.Forall₂ (fun path x => ∃ i more, path = (first + i) :: more ∧
      itemAt? Node.children nodes (i :: more) = some x.2 ∧ depth + more.length = x.1)
      (places first nodes) (walk depth nodes) := by
  induction nodes using outline_induction generalizing depth first with
  | nil =>
    rw [places, walk_nil]
    exact .nil
  | cons node rest below beside =>
    rw [places_cons, walk_cons]
    refine .cons ⟨0, [], rfl, rfl, rfl⟩ (List.rel_append ?_ ?_)
    · rw [List.forall₂_map_left_iff]
      refine (below (depth + 1) 0).imp ?_
      rintro _ x ⟨i, more, rfl, found, level⟩
      refine ⟨0, i :: more, by rw [Nat.zero_add, Nat.add_zero], found, ?_⟩
      rw [← level, List.length_cons, Nat.add_right_comm, Nat.add_assoc]
    · refine (beside depth (first + 1)).imp ?_
      rintro _ x ⟨i, more, rfl, found, level⟩
      exact ⟨i + 1, more, by rw [Nat.add_assoc, Nat.add_comm 1], found, level⟩

theorem walk_meetsAll (nodes : List Node) :
    MeetsAll Node.children nodes (places 0 nodes) (walk 0 nodes) where
  once := nodup_places 0 nodes
  all path := by
    rw [mem_places_iff]
    constructor
    · rintro ⟨i, more, rfl, found⟩
      rwa [Nat.zero_add]
    · intro found
      cases path with
      | nil => cases found
      | cons i more => exact ⟨i, more, by rw [Nat.zero_add], found⟩
  each := by
    refine (walk_meets_places 0 0 nodes).imp ?_
    rintro _ x ⟨i, more, rfl, found, level⟩
    rw [Nat.zero_add] at level ⊢
    exact ⟨found, congrArg (· + 1) level⟩

theorem descend?_report (node : Node) (path : List Nat) :
    descend? Json.nested node.report path =
      (descend? Node.children node path).map Node.report := by
  induction path generalizing node with
  | nil => rfl
  | cons i path ih =>
    rw [descend?, descend?, nested_report, reports_eq_map, List.getElem?_map]
    cases node.children[i]? with
    | none => rfl
    | some child => exact ih child

theorem itemAt?_reports (nodes : List Node) (path : List Nat) :
    itemAt? Json.nested (reports nodes) path =
      (itemAt? Node.children nodes path).map Node.report := by
  cases path with
  | nil => rfl
  | cons i path =>
    rw [itemAt?, itemAt?, reports_eq_map, List.getElem?_map]
    cases nodes[i]? with
    | none => rfl
    | some node => exact descend?_report node path

theorem visit_meetsAll (nodes : List Node) :
    MeetsAll Json.nested (reports nodes) (places 0 nodes) (visit 0 (reports nodes)) where
  once := nodup_places 0 nodes
  all path := by rw [(walk_meetsAll nodes).all path, itemAt?_reports, Option.isSome_map]
  each := by
    rw [visit_reports, List.forall₂_map_right_iff]
    refine (walk_meetsAll nodes).each.imp ?_
    rintro path x ⟨found, level⟩
    exact ⟨by rw [itemAt?_reports, found, Option.map_some], level⟩

end Outline

end OpenDocs
