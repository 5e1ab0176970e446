import OpenDocs.Proofs.Number.Decimal
import OpenDocs.Proofs.Outline.Language

/-!
# What a rendered outline shows

A line has two spaces for each level, then the kind up to a space, and the range behind the last
space; the name is what stands between, whatever it holds besides a line feed. So an outline can be
told from its text.
-/

namespace OpenDocs

theorem Range.toList_text (r : Range) :
    r.text.toList = '[' :: (Nat.toDigits 10 r.start.line ++ ',' ::
      (Nat.toDigits 10 r.start.character ++ '-' :: (Nat.toDigits 10 r.stop.line ++ ',' ::
      (Nat.toDigits 10 r.stop.character ++ ']' :: [])))) := by
  simp only [Range.text, String.toList_append, List.append_assoc, Nat.toString_eq_repr,
    Nat.toList_repr]
  rfl

theorem Range.text_inj {r q : Range} (same : r.text = q.text) : r = q := by
  have chars := congrArg String.toList same
  rw [Range.toList_text, Range.toList_text, List.cons.injEq] at chars
  obtain ⟨startLine, rest⟩ := toDigits_append_mark_inj rfl chars.2
  obtain ⟨startCharacter, rest⟩ := toDigits_append_mark_inj rfl rest
  obtain ⟨stopLine, rest⟩ := toDigits_append_mark_inj rfl rest
  obtain ⟨stopCharacter, _⟩ := toDigits_append_mark_inj rfl rest
  obtain ⟨start, stop, ordered⟩ := r
  obtain ⟨start', stop', ordered'⟩ := q
  obtain rfl : start = start' := Position.ext startLine startCharacter
  obtain rfl : stop = stop' := Position.ext stopLine stopCharacter
  rfl

/-- A range is written with digits, brackets, commas and a dash. -/
theorem Range.not_mem_text {mark : Char} (r : Range) (other : mark.isDigit = false)
    (plain : mark ∉ ['[', ',', '-', ']']) : mark ∉ r.text.toList := by
  simp only [List.mem_cons, List.not_mem_nil, or_false, not_or] at plain
  simp only [Range.toList_text, List.mem_cons, List.mem_append, not_or, not_mem_toDigits other,
    plain, not_false_eq_true, List.not_mem_nil, and_self]

namespace Outline

namespace Kind

def ofLabel? (label : String) : Option Kind := (unknown :: known).find? (·.label = label)

theorem ofLabel?_label (k : Kind) : ofLabel? k.label = some k := by cases k <;> rfl

theorem label_inj {k l : Kind} (same : k.label = l.label) : k = l :=
  Option.some.inj ((ofLabel?_label k).symm.trans (same ▸ ofLabel?_label l))

theorem not_mem_label {mark : Char} (k : Kind) (plain : mark = ' ' ∨ mark = '\n') :
    mark ∉ k.label.toList := by
  obtain rfl | rfl := plain <;> cases k <;> decide

theorem toList_label_ne_nil (k : Kind) : k.label.toList ≠ [] := by cases k <;> decide

end Kind

/-- What a line says of a node behind the indentation. -/
def Node.body (n : Node) : List Char :=
  n.kind.label.toList ++ ' ' :: (n.name.toList ++ ' ' :: n.range.text.toList)

def Node.lineChars (indent : String) (depth : Nat) (n : Node) : List Char :=
  indent.toList ++ (List.replicate (2 * depth) ' ' ++ n.body)

theorem Node.toList_line (indent : String) (depth : Nat) (n : Node) :
    (n.line indent depth).toList = n.lineChars indent depth ++ ['\n'] := by
  simp [Node.line, Node.lineChars, Node.body]

theorem Node.body_inj {n m : Node} (same : n.body = m.body) :
    n.name = m.name ∧ n.kind = m.kind ∧ n.range = m.range := by
  obtain ⟨label, rest⟩ := Text.append_mark_inj (n.kind.not_mem_label (.inl rfl))
    (m.kind.not_mem_label (.inl rfl)) same
  obtain ⟨name, range⟩ := Text.mark_append_inj (n.range.not_mem_text rfl (by decide))
    (m.range.not_mem_text rfl (by decide)) rest
  exact ⟨String.toList_inj.mp name, Kind.label_inj (String.toList_inj.mp label),
    Range.text_inj (String.toList_inj.mp range)⟩

/-- The depth that a line shows by the spaces behind the common indentation. -/
def shownDepth (indent : String) (line : List Char) : Nat :=
  ((line.drop indent.length).takeWhile (· == ' ')).length / 2

theorem Node.takeWhile_body (n : Node) : n.body.takeWhile (· == ' ') = [] := by
  have free := n.kind.not_mem_label (.inl rfl)
  obtain ⟨c, cs, label⟩ := List.exists_cons_of_ne_nil n.kind.toList_label_ne_nil
  rw [label] at free
  rw [Node.body, label, List.cons_append, List.takeWhile_cons_of_neg]
  intro blank
  exact free (by simp [eq_of_beq blank])

theorem drop_lineChars (indent : String) (depth : Nat) (n : Node) :
    (n.lineChars indent depth).drop indent.length = List.replicate (2 * depth) ' ' ++ n.body :=
  List.drop_left' String.length_toList

theorem shownDepth_lineChars (indent : String) (depth : Nat) (n : Node) :
    shownDepth indent (n.lineChars indent depth) = depth := by
  rw [shownDepth, drop_lineChars, List.takeWhile_append_of_pos, Node.takeWhile_body, List.append_nil,
    List.length_replicate, Nat.mul_div_cancel_left depth (by decide)]
  intro c met
  rw [List.eq_of_mem_replicate met]
  rfl

theorem Node.lineChars_inj {indent : String} {depth depth' : Nat} {n m : Node}
    (same : n.lineChars indent depth = m.lineChars indent depth') :
    depth = depth' ∧ n.name = m.name ∧ n.kind = m.kind ∧ n.range = m.range := by
  have level := congrArg (shownDepth indent) same
  rw [shownDepth_lineChars, shownDepth_lineChars] at level
  subst level
  have body := congrArg (List.drop indent.length) same
  rw [drop_lineChars, drop_lineChars] at body
  exact ⟨rfl, Node.body_inj (List.append_cancel_left body)⟩

open Text (OneLine)

theorem Node.not_mem_lineChars {indent : String} {n : Node} (plain : OneLine indent)
    (named : OneLine n.name) (depth : Nat) : '\n' ∉ n.lineChars indent depth := by
  have blanks : '\n' ∉ List.replicate (2 * depth) ' ' := fun met =>
    absurd (List.eq_of_mem_replicate met) (by decide)
  have label := n.kind.not_mem_label (.inr rfl)
  have range := n.range.not_mem_text (show '\n'.isDigit = false from rfl) (by decide)
  simp only [Node.lineChars, Node.body, List.mem_append, List.mem_cons, not_or]
  exact ⟨plain, blanks, label, by decide, named, by decide, range⟩

variable {indent : String} {nodes : List Node}

/-- The lines of a rendered outline are those of its nodes, in the order of the walk. -/
theorem cut_render (plain : OneLine indent) (named : Everywhere (fun n => OneLine n.name) nodes) :
    Text.cut '\n' (render nodes indent).toList =
      (walk 0 nodes).map (fun x => x.2.lineChars indent x.1) ++ [[]] := by
  have lines : (render nodes indent).toList =
      (walk 0 nodes).flatMap fun x => x.2.lineChars indent x.1 ++ ['\n'] := by
    simp only [render, String.toList_join, List.flatMap_map, Node.toList_line]
  rw [lines]
  apply Text.cut_flatMap_append_mark
  intro x met
  exact Node.not_mem_lineChars plain (named.of_mem_walk 0 x met) x.1

/-- The depths that the lines of a text show. -/
def shownDepths (indent : String) (text : String) : List Nat :=
  (Text.cut '\n' text.toList).dropLast.map (shownDepth indent)

theorem shownDepths_render (plain : OneLine indent)
    (named : Everywhere (fun n => OneLine n.name) nodes) :
    shownDepths indent (render nodes indent) = (walk 0 nodes).map (·.1) := by
  rw [shownDepths, cut_render plain named, List.dropLast_concat, List.map_map]
  exact List.map_congr_left fun x _ => shownDepth_lineChars indent x.1 x.2

/-- Outlines whose names are of one line can be told from their text, with the same indentation in
front. There is a line for each node, and the indentation alone gives the shape. Names are of one
line if they come from a text in one of the languages. -/
theorem render_inj (first second : List Node) (indent : String) (plain : OneLine indent)
    (named : Everywhere (fun n => OneLine n.name) first)
    (named' : Everywhere (fun n => OneLine n.name) second) :
    (render first indent = render second indent → first = second) ∧
    ((Text.cut '\n' (render first indent).toList).dropLast).length = size first ∧
    (shownDepths indent (render first indent) = shownDepths indent (render second indent) →
      Alike (fun _ _ => True) first second) ∧
    ∀ (l : Language) (t : List Char), (∀ s ∈ Symbol.preorders (l.symbols t), OneLine s.name) ∧
      ∀ (limit : DepthLimit) (nodes : List Node),
        read (Symbol.toRaw (l.symbols t)) limit = .ok nodes →
          Everywhere (fun n => OneLine n.name) nodes := by
  refine ⟨?_, ?_, ?_, fun l t => ⟨l.oneLine_of_mem_symbols t, fun limit nodes found => ?_⟩⟩
  · intro same
    have lines := congrArg (fun text => Text.cut '\n' text.toList) same
    simp only [cut_render plain named, cut_render plain named'] at lines
    have each := List.append_cancel_right lines
    rw [← List.forall₂_eq_eq_eq, List.forall₂_map_left_iff, List.forall₂_map_right_iff] at each
    exact (alike_of_walk (each.imp fun x y equal => Node.lineChars_inj equal)).eq
  · rw [cut_render plain named, List.dropLast_concat, List.length_map, length_walk]
  · intro same
    rw [shownDepths_render plain named, shownDepths_render plain named', ← List.forall₂_eq_eq_eq,
      List.forall₂_map_left_iff, List.forall₂_map_right_iff] at same
    exact alike_of_walk (same.imp fun x y equal => ⟨equal, trivial⟩)
  · exact everywhere_of_read (l.oneLine_of_mem_symbols t) found

/-- A name may end in what looks like a range, and start with what looks like a label. -/
theorem render_inj_of_names_like_lines :
    render [⟨"a [0,0-0,1]", .class, ⟨⟨0, 0⟩, ⟨0, 1⟩, by decide⟩,
        [⟨" Class b", .method, ⟨⟨0, 0⟩, ⟨0, 0⟩, by decide⟩, []⟩]⟩] "  " ≠
      render [⟨"a", .class, ⟨⟨0, 0⟩, ⟨0, 1⟩, by decide⟩, []⟩,
        ⟨"b", .class, ⟨⟨0, 0⟩, ⟨0, 0⟩, by decide⟩, []⟩] "  " := by
  intro same
  have equal := (render_inj _ _ _ (by decide) (.cons (by decide) (.cons (by decide) .nil .nil) .nil)
    (.cons (by decide) .nil (.cons (by decide) .nil .nil))).1 same
  exact absurd (congrArg (List.map Node.name) equal) (by decide)

end Outline

end OpenDocs
