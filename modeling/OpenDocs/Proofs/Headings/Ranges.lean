import OpenDocs.Proofs.Edit.Outcome
import OpenDocs.Proofs.Headings.Coherence
import OpenDocs.Proofs.Text.Spans
import Mathlib.Data.List.Chain

/-!
# The ranges of sections

A section runs from the first column of its heading to the end of a line. Both are places of the
text, so that any section can be replaced, and a section inside another lies inside it in the text
too. Sections are at most six deep, and an outline that goes so deep always has room for them.
-/

namespace OpenDocs.Headings

open Outline Text

theorem Section.symbol_eq (lines : List (List Char)) (s : Section) : s.symbol lines =
    { name := String.ofList s.heading.title
      kind := .string
      start := ⟨s.heading.line, 0⟩
      stop := ⟨s.endLine, (lines[s.endLine]?.getD []).length⟩
      children := symbolsOf lines s.inner } := by
  cases s
  rfl

theorem symbolsOf_eq_map (lines : List (List Char)) (tree : List Section) :
    symbolsOf lines tree = tree.map (Section.symbol lines) := by
  induction tree with
  | nil => rfl
  | cons s rest ih => rw [symbolsOf, ih, List.map_cons]

/-- As many sections lie one inside the other as the symbols have levels. -/
theorem exists_path (lines : List (List Char)) (tree : List Section) :
    ∃ path : List Section, path.length = Symbol.heights (symbolsOf lines tree) ∧
      (∀ s ∈ path.head?, s ∈ tree) ∧ path.IsChain fun s t => t ∈ s.inner := by
  induction tree using tree_induction with
  | nil => exact ⟨[], rfl, by simp, .nil⟩
  | cons s rest inside beside =>
    rw [symbolsOf, Symbol.heights_cons, Section.symbol_eq]
    obtain ⟨path, long, starts, chain⟩ := inside
    obtain ⟨other, long', starts', chain'⟩ := beside
    rcases Nat.le_total (path.length + 1) other.length with less | less
    · refine ⟨other, ?_, fun u first => List.mem_cons_of_mem _ (starts' u first), chain'⟩
      rw [← long, ← long', Nat.max_eq_right less]
    · refine ⟨s :: path, ?_, ?_, List.isChain_cons.mpr ⟨starts, chain⟩⟩
      · rw [← long, ← long', Nat.max_eq_left less, List.length_cons]
      · rintro _ ⟨⟩
        exact List.mem_cons_self

/-- Of sections side by side each ends before the next begins, and the last one ends last. -/
theorem Tiles.endLine_le {stop : Nat} {row : List Section} (tiles : Tiles stop row)
    (ordered : ∀ s ∈ row, s.heading.line ≤ s.endLine) : ∀ s ∈ row, s.endLine ≤ stop := by
  obtain ⟨next, last⟩ := tiles
  induction row with
  | nil => simp
  | cons s rest ih =>
    cases rest with
    | nil =>
      intro u met
      obtain rfl := List.mem_singleton.mp met
      exact Nat.le_of_eq (last u rfl)
    | cons t rest =>
      obtain ⟨first, next⟩ := List.isChain_cons_cons.mp next
      rw [List.getLast?_cons_cons] at last
      have later := ih (fun u met => ordered u (List.mem_cons_of_mem _ met)) next last
      intro u met
      obtain rfl | met := List.mem_cons.mp met
      · have below := later t List.mem_cons_self
        have order := ordered t (List.mem_cons_of_mem _ List.mem_cons_self)
        omega
      · exact later u met

namespace Coherent

variable {hs : List Heading} {lastLine : Nat} {tree : List Section}

theorem heights_le (coherent : Coherent hs lastLine tree) (lines : List (List Char)) :
    Symbol.heights (symbolsOf lines tree) ≤ 6 := by
  obtain ⟨path, long, starts, chain⟩ := exists_path lines tree
  rw [← long]
  exact coherent.shallow path starts chain

/-- A section inside another begins below the other's heading and ends no later. -/
theorem inner_lines (coherent : Coherent hs lastLine tree) {s c : Section} (met : s ∈ preorder tree)
    (held : c ∈ s.inner) : s.heading.line < c.heading.line ∧ c.endLine ≤ s.endLine := by
  have below := mem_preorder_of_mem held
  have listed : c.heading ∈ hs := by
    rw [← coherent.listed]
    exact List.mem_map_of_mem (mem_preorder_trans met below)
  have inside := (coherent.holds s met c.heading listed).mp (List.mem_map_of_mem below)
  refine ⟨inside.1, (coherent.tiled s met).endLine_le (fun u held => ?_) c held⟩
  exact (coherent.bounds u (mem_preorder_trans met (mem_preorder_of_mem held))).1

end Coherent

section

variable {t : List Char} {s c : Section}

theorem start_le_stop_of_mem (met : s ∈ preorder (sections (lineTexts t))) :
    (s.symbol (lineTexts t)).start ≤ (s.symbol (lineTexts t)).stop := by
  have bounds := (coherent_sections t).bounds s met
  rw [Section.symbol_eq, Position.le_iff]
  show s.heading.line < s.endLine ∨ s.heading.line = s.endLine ∧ 0 ≤ _
  omega

/-- Both ends of a section are in the text. -/
theorem exists_spans_of_mem (met : s ∈ preorder (sections (lineTexts t))) :
    ∃ a b, Spans t (s.symbol (lineTexts t)).start (s.symbol (lineTexts t)).stop a b := by
  have bounds := (coherent_sections t).bounds s met
  have more := List.length_pos_iff.mpr (lineTexts_ne_nil t)
  rw [length_lineTexts] at bounds more
  have first := List.getElem?_eq_getElem (l := lines t) (i := s.heading.line) (by omega)
  have last := List.getElem?_eq_getElem (l := lines t) (i := s.endLine) (by omega)
  rw [Section.symbol_eq, getElem?_lineTexts, last]
  exact ⟨_, _, offsetOf_column first (Nat.zero_le _), offsetOf_column last (Nat.le_refl _)⟩

theorem inner_within (met : s ∈ preorder (sections (lineTexts t))) (held : c ∈ s.inner) :
    (s.symbol (lineTexts t)).start ≤ (c.symbol (lineTexts t)).start ∧
      (c.symbol (lineTexts t)).stop ≤ (s.symbol (lineTexts t)).stop := by
  obtain ⟨below, above⟩ := (coherent_sections t).inner_lines met held
  rw [Section.symbol_eq, Section.symbol_eq, Position.le_iff, Position.le_iff]
  refine ⟨.inl below, ?_⟩
  rcases Nat.lt_or_eq_of_le above with less | same
  · exact .inl less
  · exact .inr ⟨same, by rw [same]⟩

end

/-! ### The nodes of sections -/

section

variable {t : List Char} {nodes : List Node} {node : Node}

theorem exists_section_of_mem_walk (made : Node.symbols nodes = symbols t) {x : Nat × Node}
    (met : x ∈ walk 0 nodes) :
    ∃ s ∈ preorder (sections (lineTexts t)), s.symbol (lineTexts t) = x.2.symbol := by
  have each := Node.map_walk 0 nodes
  rw [made, symbols, preorder_symbolsOf] at each
  apply List.mem_map.mp
  rw [← each]
  exact List.mem_map_of_mem met

variable {s : Section} {child : Node}

theorem exists_inner_of_mem_children {lines : List (List Char)}
    (same : s.symbol lines = node.symbol) (held : child ∈ node.children) :
    ∃ c ∈ s.inner, c.symbol lines = child.symbol := by
  have children : symbolsOf lines s.inner = Node.symbols node.children := by
    rw [Section.symbol_eq, Node.symbol_eq, Symbol.mk.injEq] at same
    exact same.2.2.2.2
  rw [symbolsOf_eq_map, Node.symbols_eq_map] at children
  apply List.mem_map.mp
  rw [children]
  exact List.mem_map_of_mem held

theorem exists_inner_spans {a b : Nat} (same : s.symbol (lineTexts t) = node.symbol)
    (listed : s ∈ preorder (sections (lineTexts t)))
    (outer : Spans t (s.symbol (lineTexts t)).start (s.symbol (lineTexts t)).stop a b)
    (held : child ∈ node.children) :
    ∃ a' b', Spans t child.range.start child.range.stop a' b' ∧ a ≤ a' ∧ b' ≤ b := by
  obtain ⟨c, inside, again⟩ := exists_inner_of_mem_children same held
  have below := mem_preorder_trans listed (mem_preorder_of_mem inside)
  obtain ⟨a', b', spans⟩ := exists_spans_of_mem below
  obtain ⟨after, before⟩ := inner_within listed inside
  have within := outer.within spans after before
  rw [again, Node.symbol_start, Node.symbol_stop] at spans
  exact ⟨a', b', spans, within⟩

end

/-- Within six levels every Markdown document has an outline, which shows its symbols: one for each
heading, from the first column of the heading's line on. The range of a node can be replaced by any
text, and it covers what the ranges of the nodes below it cover. -/
theorem outline_of_sections (t : List Char) (limit : DepthLimit) (deep : 6 ≤ limit.levels) :
    ∃ nodes, read (Symbol.toRaw (symbols t)) limit = .ok nodes ∧ Node.symbols nodes = symbols t ∧
      (walk 0 nodes).map (fun x => (x.2.name, x.2.range.start)) =
        (headings (lineTexts t)).map (fun h => (String.ofList h.title, ⟨h.line, 0⟩)) ∧
      ∀ x ∈ walk 0 nodes, x.2.kind = .string ∧
        ∃ a b, Spans t x.2.range.start x.2.range.stop a b ∧ a ≤ b ∧ b ≤ t.length ∧
          (∀ replacement, Edit.apply t ⟨x.2.range, replacement⟩ =
            .ok (t.take a ++ replacement ++ t.drop b)) ∧
          ∀ child ∈ x.2.children, ∃ a' b',
            Spans t child.range.start child.range.stop a' b' ∧ a ≤ a' ∧ b' ≤ b := by
  have coherent := coherent_sections t
  have listed := preorder_symbolsOf (lineTexts t) (sections (lineTexts t))
  obtain ⟨nodes, made⟩ : ∃ nodes, Node.symbols nodes = symbols t := by
    apply exists_symbols_eq
    rw [symbols, listed]
    exact List.forall_mem_map.mpr fun s met => start_le_stop_of_mem met
  have low := Nat.le_trans (coherent.heights_le (lineTexts t)) deep
  refine ⟨nodes, read_toRaw_eq_ok_iff.mpr ⟨made, low⟩, made, ?_, fun x met => ?_⟩
  · have each := congrArg (List.map fun s => (s.name, s.start)) (Node.map_walk 0 nodes)
    rw [made, symbols, listed, List.map_map, List.map_map] at each
    simp only [Function.comp_def, Node.symbol_name, Node.symbol_start, Section.symbol_eq] at each
    rw [each, ← coherent.listed, List.map_map]
    rfl
  · obtain ⟨s, listed, same⟩ := exists_section_of_mem_walk made met
    obtain ⟨a, b, spans⟩ := exists_spans_of_mem listed
    have kind : (s.symbol (lineTexts t)).kind = .string := by rw [Section.symbol_eq]
    have inner : ∀ child ∈ x.2.children, ∃ a' b',
        Spans t child.range.start child.range.stop a' b' ∧ a ≤ a' ∧ b' ≤ b :=
      fun child held => exists_inner_spans same listed spans held
    rw [same, Node.symbol_kind] at kind
    rw [same, Node.symbol_start, Node.symbol_stop] at spans
    exact ⟨kind, a, b, spans, spans.ordered x.2.range.start_le_stop, spans.stop_le_length,
      fun replacement => Edit.apply_of_ok spans.start spans.stop, inner⟩

/-- Headings on lines with each kind of break, the last one underlined and before an empty line, in
the fewest levels. -/
theorem outline_of_sections_with_mixed_breaks :
    6 ≤ (DepthLimit.ofInt 6).levels ∧
    ∃ nodes,
      read (Symbol.toRaw (symbols "# a\r## b\r\nc\n===\n".toList)) (.ofInt 6) = .ok nodes ∧
      (walk 0 nodes).map (fun x => (x.2.name, x.2.range.start)) =
        [("a", ⟨0, 0⟩), ("b", ⟨1, 0⟩), ("c", ⟨2, 0⟩)] ∧
      ∀ x ∈ walk 0 nodes, ∃ a b, ∀ replacement,
        Edit.apply "# a\r## b\r\nc\n===\n".toList ⟨x.2.range, replacement⟩ =
          .ok ("# a\r## b\r\nc\n===\n".toList.take a ++ replacement ++
            "# a\r## b\r\nc\n===\n".toList.drop b) := by
  have deep : 6 ≤ (DepthLimit.ofInt 6).levels := by decide
  obtain ⟨nodes, found, _, headed, each⟩ :=
    outline_of_sections "# a\r## b\r\nc\n===\n".toList (.ofInt 6) deep
  refine ⟨deep, nodes, found, headed, fun x met => ?_⟩
  obtain ⟨_, a, b, _, _, _, edited, _⟩ := each x met
  exact ⟨a, b, edited⟩

end OpenDocs.Headings
