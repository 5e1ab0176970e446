import OpenDocs.Outline.Kind

/-!
# Outlines

An outline is a list of nodes, each with a list of nodes below it. It is shown one node a line,
indented by depth, or as JSON.
-/

namespace OpenDocs.Outline

structure Node where
  name : String
  kind : Kind
  range : Range
  children : List Node

def atDepth (depth : Nat) (nodes : List Node) : List (Nat × Node) := nodes.map (depth, ·)

/-- The sizes of all items of a list together. -/
def total {α : Type} (size : α → Nat) : List α → Nat
  | [] => 0
  | x :: rest => size x + total size rest

theorem total_append {α : Type} (size : α → Nat) (xs ys : List α) :
    total size (xs ++ ys) = total size xs + total size ys := by
  induction xs with
  | nil => rw [List.nil_append, total, Nat.zero_add]
  | cons x xs ih => rw [List.cons_append, total, total, ih, Nat.add_assoc]

theorem total_atDepth_le (depth : Nat) (nodes : List Node) :
    total (fun x => sizeOf x.2) (atDepth depth nodes) ≤ sizeOf nodes := by
  induction nodes with
  | nil => exact Nat.zero_le _
  | cons node rest ih =>
    simp only [atDepth, List.map_cons, total, List.cons.sizeOf_spec] at ih ⊢
    omega

/-- Goes through the nodes on a stack; the children of a node come right after it. -/
def walkFrom : List (Nat × Node) → List (Nat × Node)
  | [] => []
  | (depth, node) :: stack =>
    (depth, node) :: walkFrom (atDepth (depth + 1) node.children ++ stack)
termination_by stack => total (fun x => sizeOf x.2) stack
decreasing_by
  obtain ⟨name, kind, range, children⟩ := node
  have below := total_atDepth_le (depth + 1) children
  simp only [total_append, total, Node.mk.sizeOf_spec]
  omega

/-- The nodes with their depths, each before its children. -/
def walk (depth : Nat) (nodes : List Node) : List (Nat × Node) := walkFrom (atDepth depth nodes)

def Node.line (indent : String) (depth : Nat) (n : Node) : String :=
  indent ++ String.ofList (List.replicate (2 * depth) ' ') ++ n.kind.label ++ " " ++ n.name ++ " "
    ++ n.range.text ++ "\n"

def render (nodes : List Node) (indent : String) : String :=
  String.join ((walk 0 nodes).map fun (depth, node) => node.line indent depth)

/-- Whether a number of the nodes has more digits than are converted. -/
def anyLong (nodes : List Node) : Bool :=
  (walk 0 nodes).any fun (_, n) => n.range.numbers.any Json.isLong

mutual

/-- A node as JSON, if there is room for so many nodes below one another. -/
def Node.reportWithin : Nat → Node → Option Json
  | 0, _ => none
  | room + 1, ⟨name, kind, range, children⟩ =>
    (reportsWithin room children).map fun below =>
      .record [("name", .text name), ("kind", .text kind.label), ("range", range.report),
        ("children", .list below)]

def reportsWithin : Nat → List Node → Option (List Json)
  | _, [] => some []
  | room, node :: rest => do
    let first ← node.reportWithin room
    let more ← reportsWithin room rest
    pure (first :: more)

end

/-- A thousand calls may be within one another, and each node takes two. -/
def reportRoom : Nat := 490

end OpenDocs.Outline
