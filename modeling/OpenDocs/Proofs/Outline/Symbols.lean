import OpenDocs.Outline.Symbol
import OpenDocs.Proofs.Outline.Mirror
import OpenDocs.Proofs.Outline.Walk

/-!
# Symbols and their nodes

Symbols that are found in a text are read like any others. What is read of them are the same symbols
again, if their ends are in order and they do not nest too deep.
-/

namespace OpenDocs.Outline

mutual

def Symbol.preorder : Symbol → List Symbol
  | ⟨name, kind, start, stop, children⟩ =>
    ⟨name, kind, start, stop, children⟩ :: Symbol.preorders children

/-- The symbols, each before its children. -/
def Symbol.preorders : List Symbol → List Symbol
  | [] => []
  | s :: rest => s.preorder ++ Symbol.preorders rest

end

@[simp] theorem Symbol.preorders_nil : Symbol.preorders [] = [] := rfl

theorem Symbol.preorders_cons (s : Symbol) (rest : List Symbol) :
    Symbol.preorders (s :: rest) = s :: (Symbol.preorders s.children ++ Symbol.preorders rest) := by
  cases s
  rfl

theorem Symbol.preorders_append (first second : List Symbol) :
    Symbol.preorders (first ++ second) = Symbol.preorders first ++ Symbol.preorders second := by
  induction first with
  | nil => rfl
  | cons s rest ih => rw [List.cons_append, preorders, preorders, ih, List.append_assoc]

/-- What holds of no symbols, and of a symbol and those beside it if of its children and of those
beside it, holds of all symbols. -/
@[elab_as_elim]
theorem symbol_induction {motive : List Symbol → Prop} (nil : motive [])
    (cons : ∀ s rest, motive s.children → motive rest → motive (s :: rest)) :
    ∀ symbols, motive symbols
  | [] => nil
  | ⟨name, kind, start, stop, children⟩ :: rest =>
    cons ⟨name, kind, start, stop, children⟩ rest (symbol_induction nil cons children)
      (symbol_induction nil cons rest)

theorem Symbol.mem_preorders_iff {s : Symbol} {symbols : List Symbol} :
    s ∈ Symbol.preorders symbols ↔ ∃ r ∈ symbols, s = r ∨ s ∈ Symbol.preorders r.children := by
  induction symbols with
  | nil => simp
  | cons r rest ih =>
    rw [preorders_cons, List.mem_cons, List.mem_append, ih, List.exists_mem_cons_iff, or_assoc]

mutual

def Symbol.height : Symbol → Nat
  | ⟨_, _, _, _, children⟩ => Symbol.heights children + 1

/-- The number of levels of symbols. -/
def Symbol.heights : List Symbol → Nat
  | [] => 0
  | s :: rest => max s.height (Symbol.heights rest)

end

theorem Symbol.heights_cons (s : Symbol) (rest : List Symbol) :
    Symbol.heights (s :: rest) = max (Symbol.heights s.children + 1) (Symbol.heights rest) := by
  cases s
  rfl

/-! ### The symbols that nodes stand for -/

mutual

def Node.symbol : Node → Symbol
  | ⟨name, kind, range, children⟩ => ⟨name, kind, range.start, range.stop, Node.symbols children⟩

/-- The symbols that say what the nodes say. -/
def Node.symbols : List Node → List Symbol
  | [] => []
  | node :: rest => node.symbol :: Node.symbols rest

end

namespace Node

theorem symbol_eq (node : Node) : node.symbol =
    ⟨node.name, node.kind, node.range.start, node.range.stop, symbols node.children⟩ := by
  cases node
  rfl

@[simp] theorem symbol_name (node : Node) : node.symbol.name = node.name := by rw [symbol_eq]

@[simp] theorem symbol_kind (node : Node) : node.symbol.kind = node.kind := by rw [symbol_eq]

@[simp] theorem symbol_start (node : Node) : node.symbol.start = node.range.start := by
  rw [symbol_eq]

@[simp] theorem symbol_stop (node : Node) : node.symbol.stop = node.range.stop := by rw [symbol_eq]

theorem symbols_eq_map (nodes : List Node) : symbols nodes = nodes.map symbol := by
  induction nodes with
  | nil => rfl
  | cons node rest ih => rw [symbols, ih, List.map_cons]

theorem height_eq (nodes : List Node) : Outline.height nodes = Symbol.heights (symbols nodes) := by
  induction nodes using outline_induction with
  | nil => rfl
  | cons node rest below beside =>
    rw [height_cons, symbols, Symbol.heights_cons, symbol_eq, below, beside]

theorem map_walk (depth : Nat) (nodes : List Node) :
    (walk depth nodes).map (fun x => x.2.symbol) = Symbol.preorders (symbols nodes) := by
  induction nodes using outline_induction generalizing depth with
  | nil => simp [symbols]
  | cons node rest below beside =>
    rw [walk_cons, symbols, Symbol.preorders_cons, List.map_cons, List.map_append, below, beside,
      symbol_eq]

end Node

/-- Symbols whose ends are in order are those of nodes. -/
theorem exists_symbols_eq {symbols : List Symbol}
    (ordered : ∀ s ∈ Symbol.preorders symbols, s.start ≤ s.stop) :
    ∃ nodes, Node.symbols nodes = symbols := by
  induction symbols using symbol_induction with
  | nil => exact ⟨[], rfl⟩
  | cons s rest below beside =>
    rw [Symbol.preorders_cons, List.forall_mem_cons, List.forall_mem_append] at ordered
    obtain ⟨own, inside, others⟩ := ordered
    obtain ⟨children, made⟩ := below inside
    obtain ⟨nodes, made'⟩ := beside others
    obtain ⟨name, kind, start, stop, _⟩ := s
    refine ⟨⟨name, kind, ⟨start, stop, own⟩, children⟩ :: nodes, ?_⟩
    rw [Node.symbols, Node.symbol, made, made']

/-! ### Reading reported symbols -/

theorem rangeOf_report (start stop : Position) :
    Raw.rangeOf start.report.toRaw stop.report.toRaw = Range.make start stop := rfl

theorem hasKind_code_iff {kind found : Kind} : HasKind (.int kind.code) found ↔ found = kind := by
  have own := hasKind_ofRaw (.int kind.code)
  rw [Kind.ofRaw, Kind.ofCode_code] at own
  constructor
  · intro has
    exact has.unique own
  · rintro rfl
    exact own

theorem shows_report_iff {s : Symbol} {node : Node} : Shows s.report.toRaw node ↔
    node.name = s.name ∧ node.kind = s.kind ∧ node.range.start = s.start ∧
      node.range.stop = s.stop := by
  obtain ⟨name, kind, start, stop, children⟩ := s
  have ranged : HasRange (Symbol.report ⟨name, kind, start, stop, children⟩).toRaw node.range ↔
      node.range.start = start ∧ node.range.stop = stop := by
    rw [← toRange_rawRange_iff]
    change Raw.rangeOf start.report.toRaw stop.report.toRaw = .ok node.range ↔ _
    rw [rangeOf_report, Range.make_eq_ok_iff]
    constructor
    · exact And.right
    · rintro ⟨rfl, rfl⟩
      exact ⟨node.range.start_le_stop, rfl, rfl⟩
  constructor
  · intro shown
    exact ⟨(Raw.text.inj shown.name).symm, hasKind_code_iff.mp shown.kind, ranged.mp shown.range⟩
  · rintro ⟨named, sort, ends⟩
    exact ⟨congrArg Raw.text named.symm, hasKind_code_iff.mpr sort, ranged.mpr ends⟩

theorem mirrors_reports_iff {symbols : List Symbol} {nodes : List Node} :
    Mirrors (Json.toRaw.rawItems (Symbol.reports symbols)) nodes ↔ Node.symbols nodes = symbols := by
  induction symbols using symbol_induction generalizing nodes with
  | nil =>
    cases nodes with
    | nil => exact iff_of_true .nil rfl
    | cons node rest => exact iff_of_false (fun mirrored => nomatch mirrored) nofun
  | cons s rest below beside =>
    have lists : Outlines (s.report.toRaw.field "children") = fun nodes =>
        Node.symbols nodes = s.children := by
      funext nodes
      obtain ⟨name, kind, start, stop, children⟩ := s
      exact propext ((outlines_of_lists (.list _)).trans below)
    rw [Symbol.reports, Json.toRaw.rawItems, mirrors_cons_iff, lists]
    simp only [shows_report_iff, beside]
    constructor
    · rintro ⟨node, more, ⟨named, sort, start, stop⟩, inside, others, rfl⟩
      rw [Node.symbols, Node.symbol_eq, named, sort, start, stop, inside, others]
      cases s
      rfl
    · intro same
      cases nodes with
      | nil => cases same
      | cons node more =>
        rw [Node.symbols, List.cons.injEq] at same
        obtain ⟨rfl, others⟩ := same
        rw [Node.symbol_eq]
        exact ⟨node, more, ⟨rfl, rfl, rfl, rfl⟩, rfl, others, rfl⟩

variable {symbols : List Symbol} {limit : DepthLimit} {nodes : List Node}

/-- Reported symbols are read as what they are, if they do not nest too deep. -/
theorem read_toRaw_eq_ok_iff : read (Symbol.toRaw symbols) limit = .ok nodes ↔
    Node.symbols nodes = symbols ∧ Symbol.heights symbols ≤ limit.levels := by
  rw [read_eq_ok_iff, Symbol.toRaw, Json.toRaw, outlines_of_lists (.list _), mirrors_reports_iff,
    Node.height_eq]
  constructor
  · rintro ⟨rfl, low⟩
    exact ⟨rfl, low⟩
  · rintro ⟨rfl, low⟩
    exact ⟨rfl, low⟩

/-- What holds of the names of all symbols holds of those of their nodes. -/
theorem everywhere_of_read {holds : String → Prop}
    (named : ∀ s ∈ Symbol.preorders symbols, holds s.name)
    (found : read (Symbol.toRaw symbols) limit = .ok nodes) :
    Everywhere (fun n => holds n.name) nodes := by
  obtain rfl := (read_toRaw_eq_ok_iff.mp found).1
  -- the depth of the outline matters no more
  clear found
  induction nodes using outline_induction with
  | nil => exact .nil
  | cons node rest below beside =>
    rw [Node.symbols, Symbol.preorders_cons, List.forall_mem_cons, List.forall_mem_append,
      Node.symbol_eq] at named
    obtain ⟨own, inside, others⟩ := named
    exact .cons own (below inside) (beside others)

end OpenDocs.Outline
