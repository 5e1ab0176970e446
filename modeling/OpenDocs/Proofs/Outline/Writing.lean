import OpenDocs.Proofs.Outline.Symbols
import OpenDocs.Proofs.Raw.Spellings

/-!
# Reading what was written

A node can be written as a record, with the ends of its range or with four numbers, or as an object
with what the node has. Whichever is taken for each node, the outline is read again as it was, and
what was read once is read the same the next time.
-/

namespace OpenDocs.Outline

/-- How the range of a record is written. -/
inductive RangeForm where
  | ends
  | list
  | tuple

/-- How a node is written. -/
inductive Form where
  | record (range : RangeForm)
  | object

def RangeForm.write (r : Range) : RangeForm → Raw
  | ends => r.report.toRaw
  | list => .list [.int r.start.line, .int r.start.character, .int r.stop.line,
      .int r.stop.character]
  | tuple => .tuple [.int r.start.line, .int r.start.character, .int r.stop.line,
      .int r.stop.character]

/-- A node by itself, with the children as they are written. -/
def Form.write (name : String) (kind : Kind) (range : Range) (children : List Raw) : Form → Raw
  | record form => .record [("name", .text name), ("kind", .int kind.code),
      ("range", form.write range), ("children", .list children)]
  | object => .object [("name", .text name), ("kind", .int kind.code), ("range", .range range),
      ("children", .list children)]

mutual

/-- Writes a node and those below it, each in the form that is given for its path. -/
def Node.write (form : List Nat → Form) : Node → Raw
  | ⟨name, kind, range, children⟩ => (form []).write name kind range (writeFrom form 0 children)

/-- Writes the nodes from number `index` on. -/
def writeFrom (form : List Nat → Form) (index : Nat) : List Node → List Raw
  | [] => []
  | node :: rest => node.write (fun path => form (index :: path)) :: writeFrom form (index + 1) rest

end

def write (form : List Nat → Form) (nodes : List Node) : Raw := .list (writeFrom form 0 nodes)

theorem Node.write_eq (form : List Nat → Form) (node : Node) : node.write form =
    (form []).write node.name node.kind node.range (writeFrom form 0 node.children) := by
  cases node
  simp [Node.write]

theorem RangeForm.toRange_write (form : RangeForm) (r : Range) :
    (form.write r).toRange = .ok r := by
  apply Raw.toRange_eq_ok_iff.mpr
  cases form with
  | ends => exact Raw.spellsRange_report r
  | list => exact .numbers (.list _) (.int _) (.int _) (.int _) (.int _)
  | tuple => exact .numbers (.tuple _) (.int _) (.int _) (.int _) (.int _)

section

variable (form : Form) (name : String) (kind : Kind) (range : Range) (children : List Raw)

@[simp] theorem Form.field_name_write :
    (form.write name kind range children).field "name" = .text name := by
  cases form <;> rfl

@[simp] theorem Form.field_kind_write :
    (form.write name kind range children).field "kind" = .int kind.code := by
  cases form <;> rfl

@[simp] theorem Form.field_children_write :
    (form.write name kind range children).field "children" = .list children := by
  cases form <;> rfl

theorem Form.hasRange_write : HasRange (form.write name kind range children) range := by
  cases form with
  | record form =>
    have read := form.toRange_write range
    apply HasRange.own
    · intro missing
      change form.write range = .null at missing
      simp [missing, Raw.toRange] at read
    · exact read
  | object =>
    have given : (object.write name kind range children).field "range" = .range range := rfl
    apply HasRange.own
    · simp [given]
    · rw [given, Raw.toRange]

end

theorem shows_write (form : List Nat → Form) (node : Node) : Shows (node.write form) node := by
  rw [Node.write_eq]
  constructor
  · simp
  · simp [hasKind_code_iff]
  · apply Form.hasRange_write

theorem lists_write (form : List Nat → Form) (node : Node) :
    Lists ((node.write form).field "children") (writeFrom form 0 node.children) := by
  rw [Node.write_eq, Form.field_children_write]
  exact .list _

theorem mirrors_writeFrom (form : List Nat → Form) (index : Nat) (nodes : List Node) :
    Mirrors (writeFrom form index nodes) nodes := by
  induction nodes using outline_induction generalizing form index with
  | nil =>
    rw [writeFrom]
    exact .nil
  | cons node rest below beside =>
    rw [writeFrom]
    exact .cons (shows_write _ node) (lists_write _ node) (below _ 0) (beside form (index + 1))

theorem outlines_write (form : List Nat → Form) (nodes : List Node) :
    Outlines (write form nodes) nodes := ⟨_, .list _, mirrors_writeFrom form 0 nodes⟩

/-- An outline that is written, each node in a form of its own, is read again as it was, if so many
levels are allowed; and what was read is read the same when it is handed in as it is. -/
theorem read_write (form : List Nat → Form) (nodes : List Node) (limit : DepthLimit) :
    (∀ found, read (write form nodes) limit = .ok found ↔
      found = nodes ∧ height nodes ≤ limit.levels) ∧
    ∀ raw, read raw limit = .ok nodes → read (write (fun _ => .object) nodes) limit = .ok nodes := by
  constructor
  · intro found
    rw [read_eq_ok_iff]
    constructor
    · rintro ⟨outlined, low⟩
      obtain rfl := outlined.unique (outlines_write form nodes)
      exact ⟨rfl, low⟩
    · rintro ⟨rfl, low⟩
      exact ⟨outlines_write form found, low⟩
  · intro raw found
    have low := (read_eq_ok_iff.mp found).2
    exact read_eq_ok_iff.mpr ⟨outlines_write _ nodes, low⟩

/-- An object of unknown kind that holds a record with four numbers, in the fewest levels. -/
theorem read_write_of_mixed_forms :
    let nodes : List Node := [⟨"a", .unknown, ⟨⟨0, 0⟩, ⟨2, 1⟩, by decide⟩,
      [⟨"b", .class, ⟨⟨1, 0⟩, ⟨1, 3⟩, by decide⟩, []⟩]⟩]
    read (.list [.object [("name", .text "a"), ("kind", .int (-1)),
        ("range", .range ⟨⟨0, 0⟩, ⟨2, 1⟩, by decide⟩),
        ("children", .list [.record [("name", .text "b"), ("kind", .int 4),
          ("range", .tuple [.int 1, .int 0, .int 1, .int 3]), ("children", .list [])]])]])
      (.ofInt 2) = .ok nodes ∧
    read (write (fun _ => .object) nodes) (.ofInt 2) = .ok nodes := by
  intro nodes
  obtain ⟨written, again⟩ :=
    read_write (fun path => if path.length = 1 then .object else .record .tuple) nodes (.ofInt 2)
  have found := (written nodes).mpr ⟨rfl, by decide⟩
  exact ⟨found, again _ found⟩

end OpenDocs.Outline
