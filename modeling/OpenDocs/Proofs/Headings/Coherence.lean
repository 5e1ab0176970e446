import OpenDocs.Proofs.Headings.Cover
import OpenDocs.Proofs.Outline.Symbols

/-!
# The outline of a Markdown document

The symbols are the headings in the order of the text, nested by level, and each section covers the
lines of the sections inside it and no lines of others.
-/

namespace OpenDocs.Headings

theorem preorder_symbolsOf (lines : List (List Char)) (tree : List Section) :
    Outline.Symbol.preorders (symbolsOf lines tree) =
      (preorder tree).map (Section.symbol lines) := by
  induction tree using tree_induction with
  | nil => rfl
  | cons s rest inside beside =>
    obtain ⟨h, endLine, inner⟩ := s
    rw [preorder_cons, List.map_cons, List.map_append, ← inside, ← beside]
    rfl

/-- The sections say the same of the headings as their levels and lines do. -/
structure Coherent (hs : List Heading) (lastLine : Nat) (tree : List Section) : Prop where
  listed : (preorder tree).map (·.heading) = hs
  scanned : (preorder tree).map Section.extent = extents lastLine hs
  deeper : ∀ s ∈ preorder tree, ∀ t ∈ s.inner, s.heading.level < t.heading.level
  shallow : ∀ path : List Section, (∀ s ∈ path.head?, s ∈ tree) →
    path.IsChain (fun s t => t ∈ s.inner) → path.length ≤ 6
  holds : ∀ s ∈ preorder tree, ∀ k ∈ hs,
    k ∈ (preorder s.inner).map (·.heading) ↔ s.heading.line < k.line ∧ k.line ≤ s.endLine
  bounds : ∀ s ∈ preorder tree, s.heading.line ≤ s.endLine ∧ s.endLine ≤ lastLine
  tiled : ∀ s ∈ preorder tree, Tiles s.endLine s.inner
  first : tree.head?.map (·.heading) = hs.head?
  rows : Tiles lastLine tree

/-- Down a path the levels grow, so that it ends before they run out. -/
theorem length_path_le {tree : List Section} {lowest : Nat}
    (deeper : ∀ s ∈ preorder tree, ∀ t ∈ s.inner, s.heading.level < t.heading.level)
    (levels : ∀ s ∈ preorder tree, s.heading.level ≤ lowest) {s : Section} {path : List Section}
    (start : s ∈ preorder tree) (chain : (s :: path).IsChain fun s t => t ∈ s.inner) :
    path.length + s.heading.level ≤ lowest := by
  induction path generalizing s with
  | nil => simpa using levels s start
  | cons t path ih =>
    obtain ⟨inner, chain⟩ := List.isChain_cons_cons.mp chain
    have below := ih (mem_preorder_trans start (mem_preorder_of_mem inner)) chain
    have level := deeper s start t inner
    rw [List.length_cons]
    omega

theorem Covers.first {stop : Nat} {hs : List Heading} {tree : List Section}
    (covers : Covers stop hs tree) : tree.head?.map (·.heading) = hs.head? := by
  cases covers <;> rfl

theorem coherent_nest {first lastLine : Nat} {hs : List Heading}
    (placed : Placed first (lastLine + 1) hs) (levels : ∀ h ∈ hs, 1 ≤ h.level ∧ h.level ≤ 6) :
    Coherent hs lastLine (nest (extents lastLine hs)) := by
  have nests := nest_nests (extents lastLine hs)
  have covers := nests.covers rfl placed
  have level := fun s met => levels _ (covers.heading_mem (s := s) met)
  refine {
    listed := covers.map_preorder
    scanned := nests.map_preorder
    deeper := nests.deeper
    shallow := fun path start chain => ?_
    holds := fun s met k held => ?_
    bounds := covers.bounds
    tiled := covers.inner_tiles
    first := covers.first
    rows := covers.tiles }
  · cases path with
    | nil => exact Nat.zero_le 6
    | cons s path =>
      have root := mem_preorder_of_mem (start s rfl)
      have long := length_path_le nests.deeper (fun s met => (level s met).2) root chain
      have high := (level s root).1
      rw [List.length_cons]
      omega
  · rw [covers.map_inner s met, List.mem_filter, decide_eq_true_eq]
    exact and_iff_right held

theorem coherent_sections (t : List Char) :
    Coherent (headings (Text.lineTexts t)) ((Text.lineTexts t).length - 1)
      (sections (Text.lineTexts t)) := by
  have lines : (Text.lineTexts t).length - 1 + 1 = (Text.lineTexts t).length :=
    Nat.sub_add_cancel (List.length_pos_iff.mpr (Text.lineTexts_ne_nil t))
  have placed := headings_placed (Text.lineTexts t)
  rw [← lines] at placed
  exact coherent_nest placed level_of_mem_headings

/-- The outline of any text is coherent, and it lists the headings in order, each with its title,
its line and the last line of its section. -/
theorem symbols_coherent (t : List Char) :
    Coherent (headings (Text.lineTexts t)) ((Text.lineTexts t).length - 1)
      (sections (Text.lineTexts t)) ∧
    Outline.Symbol.preorders (symbols t) =
      (preorder (sections (Text.lineTexts t))).map (Section.symbol (Text.lineTexts t)) ∧
    (Outline.Symbol.preorders (symbols t)).map (fun s => (s.name, s.start.line, s.stop.line)) =
      (extents ((Text.lineTexts t).length - 1) (headings (Text.lineTexts t))).map
        fun x => (String.ofList x.heading.title, x.heading.line, x.endLine) := by
  have listed := preorder_symbolsOf (Text.lineTexts t) (sections (Text.lineTexts t))
  refine ⟨coherent_sections t, listed, ?_⟩
  rw [← (coherent_sections t).scanned, symbols, listed, List.map_map, List.map_map]
  refine List.map_congr_left fun s _ => ?_
  cases s
  rfl

end OpenDocs.Headings
