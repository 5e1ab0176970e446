import OpenDocs.Outline.Node
import Mathlib.Data.List.Forall2

/-!
# Going through an outline

A node comes before its children, and these before the nodes beside it. Nothing but the depths is
needed to put the nodes back in their places.
-/

namespace OpenDocs.Outline

/-- What holds of no nodes, and of a node and those beside it if of its children and of those beside
it, holds of every outline. -/
@[elab_as_elim]
theorem outline_induction {motive : List Node → Prop} (nil : motive [])
    (cons : ∀ node rest, motive node.children → motive rest → motive (node :: rest)) :
    ∀ nodes, motive nodes
  | [] => nil
  | ⟨name, kind, range, children⟩ :: rest =>
    cons ⟨name, kind, range, children⟩ rest (outline_induction nil cons children)
      (outline_induction nil cons rest)

theorem walkFrom_append (first second : List (Nat × Node)) :
    walkFrom (first ++ second) = walkFrom first ++ walkFrom second := by
  fun_induction walkFrom first with
  | case1 => rfl
  | case2 depth node stack ih =>
    rw [List.cons_append, walkFrom, ← List.append_assoc, ih, List.cons_append]

@[simp] theorem walk_nil (depth : Nat) : walk depth [] = [] := by
  rw [walk, atDepth, List.map_nil, walkFrom]

theorem walk_cons (depth : Nat) (node : Node) (rest : List Node) :
    walk depth (node :: rest) =
      (depth, node) :: (walk (depth + 1) node.children ++ walk depth rest) := by
  rw [walk, atDepth, List.map_cons, walkFrom, walkFrom_append]
  rfl

mutual

def Node.size : Node → Nat
  | ⟨_, _, _, children⟩ => size children + 1

/-- The number of nodes. -/
def size : List Node → Nat
  | [] => 0
  | node :: rest => node.size + size rest

end

theorem size_cons (node : Node) (rest : List Node) :
    size (node :: rest) = size node.children + 1 + size rest := by
  cases node
  rfl

theorem length_walk (depth : Nat) (nodes : List Node) : (walk depth nodes).length = size nodes := by
  induction nodes using outline_induction generalizing depth with
  | nil =>
    rw [walk_nil]
    rfl
  | cons node rest below beside =>
    rw [walk_cons, size_cons, List.length_cons, List.length_append, below, beside]
    omega

/-- The property holds of each node, on every level. -/
inductive Everywhere (holds : Node → Prop) : List Node → Prop
  | nil : Everywhere holds []
  | cons {node : Node} {rest : List Node} : holds node → Everywhere holds node.children →
      Everywhere holds rest → Everywhere holds (node :: rest)

theorem Everywhere.of_mem_walk {holds : Node → Prop} {nodes : List Node}
    (all : Everywhere holds nodes) (depth : Nat) : ∀ x ∈ walk depth nodes, holds x.2 := by
  induction all generalizing depth with
  | nil => simp
  | @cons node rest own _ _ below beside =>
    intro x met
    rw [walk_cons, List.mem_cons, List.mem_append] at met
    obtain rfl | inside | later := met
    · exact own
    · exact below (depth + 1) x inside
    · exact beside depth x later

/-- The outlines have the same shape, and nodes in the same place are related. -/
inductive Alike (related : Node → Node → Prop) : List Node → List Node → Prop
  | nil : Alike related [] []
  | cons {node other : Node} {rest others : List Node} : related node other →
      Alike related node.children other.children → Alike related rest others →
      Alike related (node :: rest) (other :: others)

theorem Alike.eq {first second : List Node} (alike : Alike
      (fun n m => n.name = m.name ∧ n.kind = m.kind ∧ n.range = m.range) first second) :
    first = second := by
  induction alike with
  | nil => rfl
  | @cons node other rest others own _ _ below beside =>
    obtain ⟨name, kind, range, children⟩ := node
    obtain ⟨name', kind', range', children'⟩ := other
    obtain ⟨rfl, rfl, rfl⟩ := own
    rw [beside, show children = children' from below]

theorem head_walk_append {depth : Nat} {nodes : List Node} {more : List (Nat × Node)}
    (lower : ∀ x ∈ more.head?, x.1 < depth) :
    ∀ x ∈ (walk depth nodes ++ more).head?, x.1 < depth + 1 := by
  cases nodes with
  | nil =>
    intro x first
    rw [walk_nil, List.nil_append] at first
    exact Nat.lt_succ_of_lt (lower x first)
  | cons node rest =>
    rw [walk_cons]
    rintro x first
    obtain rfl := Option.some.inj first
    exact Nat.lt_succ_self depth

/-- Two outlines that are gone through with the same depths have the same shape. What comes behind
is less deep, so that the end of each outline is seen. -/
theorem alike_of_walk_append {related : Node → Node → Prop} {first second : List Node} {depth : Nat}
    {more more' : List (Nat × Node)} (lower : ∀ x ∈ more.head?, x.1 < depth)
    (lower' : ∀ x ∈ more'.head?, x.1 < depth)
    (same : List.Forall₂ (fun x y => x.1 = y.1 ∧ related x.2 y.2) (walk depth first ++ more)
      (walk depth second ++ more')) :
    Alike related first second ∧
      List.Forall₂ (fun x y => x.1 = y.1 ∧ related x.2 y.2) more more' := by
  induction first using outline_induction generalizing second depth more more' with
  | nil =>
    cases second with
    | nil => exact ⟨.nil, by simpa using same⟩
    | cons other others =>
      rw [walk_nil, walk_cons, List.nil_append] at same
      cases same with
      | cons met _ =>
        have less := lower _ rfl
        exact absurd met.1 (Nat.ne_of_lt less)
  | cons node rest below beside =>
    cases second with
    | nil =>
      rw [walk_nil, walk_cons, List.nil_append] at same
      cases same with
      | cons met _ =>
        have less := lower' _ rfl
        exact absurd met.1 (Nat.ne_of_gt less)
    | cons other others =>
      rw [walk_cons, walk_cons] at same
      simp only [List.cons_append, List.append_assoc] at same
      cases same with
      | cons met behind =>
        obtain ⟨inner, later⟩ := below (head_walk_append lower) (head_walk_append lower') behind
        obtain ⟨outer, last⟩ := beside lower lower' later
        exact ⟨.cons met.2 inner outer, last⟩

theorem alike_of_walk {related : Node → Node → Prop} {first second : List Node} {depth : Nat}
    (same : List.Forall₂ (fun x y => x.1 = y.1 ∧ related x.2 y.2) (walk depth first)
      (walk depth second)) : Alike related first second := by
  have ends : List.Forall₂ (fun x y => x.1 = y.1 ∧ related x.2 y.2) (walk depth first ++ [])
      (walk depth second ++ []) := by
    rwa [List.append_nil, List.append_nil]
  exact (alike_of_walk_append (by simp) (by simp) ends).1

end OpenDocs.Outline
