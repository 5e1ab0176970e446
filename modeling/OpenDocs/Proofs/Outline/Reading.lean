import OpenDocs.Proofs.Outline.Mirror

/-!
# When an outline can be read

It can exactly if every symbol that can be reached is well formed and none is too deep. Then the
outline has a node for each symbol, and reading to more levels finds the same one.
-/

namespace OpenDocs.Outline

/-- The symbol that is met at a path, by child indices from the outermost list. -/
inductive Reaches : Raw → List Nat → Raw → Prop
  | here {raw : Raw} {items : List Raw} {index : Nat} {item : Raw} : Lists raw items →
      items[index]? = some item → Reaches raw [index] item
  | inside {raw : Raw} {items : List Raw} {index : Nat} {item : Raw} {path : List Nat}
      {found : Raw} : Lists raw items → items[index]? = some item →
      Reaches (item.field "children") path found → Reaches raw (index :: path) found

/-- Every symbol of a list that was read has a node. -/
theorem Mirrors.getElem? {items : List Raw} {nodes : List Node} (mirrored : Mirrors items nodes)
    {index : Nat} {item : Raw} (found : items[index]? = some item) :
    ∃ node, Shows item node ∧ Outlines (item.field "children") node.children ∧
      height node.children + 1 ≤ height nodes := by
  induction mirrored generalizing index with
  | nil => cases found
  | @cons raw node below items nodes shown listed inner behind _ ih =>
    rw [height_cons]
    cases index with
    | zero =>
      obtain rfl := Option.some.inj found
      exact ⟨node, shown, ⟨below, listed, inner⟩, Nat.le_max_left _ _⟩
    | succ index =>
      obtain ⟨other, shown, outlined, low⟩ := ih found
      exact ⟨other, shown, outlined, Nat.le_trans low (Nat.le_max_right _ _)⟩

theorem Outlines.wellFormed {raw : Raw} {nodes : List Node} (outlined : Outlines raw nodes)
    {path : List Nat} {item : Raw} (reached : Reaches raw path item) :
    path.length ≤ height nodes ∧ WellFormed item := by
  induction reached generalizing nodes with
  | here listed found =>
    obtain ⟨node, shown, ⟨items, inner, _⟩, low⟩ :=
      ((outlines_of_lists listed).mp outlined).getElem? found
    refine ⟨by simp only [List.length_singleton]; omega, ?_⟩
    exact ⟨ne_null_of_named shown.name, ⟨_, shown.name⟩, ⟨_, shown.range⟩, ⟨items, inner⟩⟩
  | inside listed found _ ih =>
    obtain ⟨node, _, inner, low⟩ := ((outlines_of_lists listed).mp outlined).getElem? found
    obtain ⟨short, formed⟩ := ih inner
    exact ⟨by simp only [List.length_cons]; omega, formed⟩

theorem exists_mirrors {items : List Raw} {levels : Nat}
    (each : ∀ item ∈ items, ∃ node, Shows item node ∧
      Outlines (item.field "children") node.children ∧ height node.children ≤ levels) :
    ∃ nodes, Mirrors items nodes ∧ height nodes ≤ levels + 1 := by
  induction items with
  | nil => exact ⟨[], .nil, Nat.zero_le _⟩
  | cons item rest ih =>
    obtain ⟨node, shown, outlined, low⟩ := each item List.mem_cons_self
    obtain ⟨nodes, mirrored, lower⟩ := ih fun other held => each other (List.mem_cons_of_mem _ held)
    refine ⟨node :: nodes, mirrors_cons_iff.mpr ⟨node, nodes, shown, outlined, mirrored, rfl⟩, ?_⟩
    rw [height_cons]
    omega

/-- A list whose symbols are all well formed, down to the last level, has an outline. -/
theorem exists_outlines {raw : Raw} {levels : Nat} (listed : ∃ items, Lists raw items)
    (formed : ∀ path item, Reaches raw path item → path.length ≤ levels ∧ WellFormed item) :
    ∃ nodes, Outlines raw nodes ∧ height nodes ≤ levels := by
  induction levels generalizing raw with
  | zero =>
    obtain ⟨items, listed⟩ := listed
    cases items with
    | nil => exact ⟨[], ⟨[], listed, .nil⟩, Nat.le_refl 0⟩
    | cons item rest =>
      have short := (formed [0] item (.here listed rfl)).1
      simp only [List.length_singleton] at short
      omega
  | succ levels ih =>
    obtain ⟨items, listed⟩ := listed
    have each : ∀ item ∈ items, ∃ node, Shows item node ∧
        Outlines (item.field "children") node.children ∧ height node.children ≤ levels := by
      intro item held
      obtain ⟨index, found⟩ := List.mem_iff_getElem?.mp held
      obtain ⟨_, ⟨name, named⟩, ⟨range, ranged⟩, inner⟩ :=
        (formed [index] item (.here listed found)).2
      obtain ⟨children, outlined, low⟩ := ih inner fun path other reached =>
        have deeper := formed (index :: path) other (.inside listed found reached)
        ⟨Nat.le_of_succ_le_succ deeper.1, deeper.2⟩
      exact ⟨⟨name, _, range, children⟩, ⟨named, hasKind_ofRaw _, ranged⟩, outlined, low⟩
    obtain ⟨nodes, mirrored, low⟩ := exists_mirrors each
    exact ⟨nodes, ⟨items, listed, mirrored⟩, low⟩

/-- Reading with a stack is reading by recursion. It succeeds exactly if what can be reached is well
formed and not too deep; what it gives is the one outline of the list, at any greater depth too. -/
theorem read_outcome (raw : Raw) (depth : Nat) :
    read raw (.ofInt depth) = readDown (.ofInt depth) depth ⟨[], raw⟩ ∧
    ((∃ nodes, read raw (.ofInt depth) = .ok nodes) ↔
      (∃ items, Lists raw items) ∧
        ∀ path item, Reaches raw path item → path.length ≤ depth ∧ WellFormed item) ∧
    ∀ nodes, read raw (.ofInt depth) = .ok nodes →
      Outlines raw nodes ∧ (∀ others, Outlines raw others → others = nodes) ∧
      ∀ deeper : Nat, depth ≤ deeper → read raw (.ofInt deeper) = .ok nodes := by
  refine ⟨read_eq_readDown raw (.ofInt depth), ⟨?_, ?_⟩, ?_⟩
  · rintro ⟨nodes, read⟩
    obtain ⟨outlined, low⟩ := read_eq_ok_iff.mp read
    obtain ⟨items, listed, _⟩ := id outlined
    refine ⟨⟨items, listed⟩, fun path item reached => ?_⟩
    obtain ⟨short, formed⟩ := outlined.wellFormed reached
    exact ⟨Nat.le_trans short low, formed⟩
  · rintro ⟨listed, formed⟩
    obtain ⟨nodes, outlined, low⟩ := exists_outlines listed formed
    exact ⟨nodes, read_eq_ok_iff.mpr ⟨outlined, low⟩⟩
  · intro nodes read
    obtain ⟨outlined, low⟩ := read_eq_ok_iff.mp read
    refine ⟨outlined, fun others again => again.unique outlined, fun deeper less => ?_⟩
    exact read_eq_ok_iff.mpr ⟨outlined, Nat.le_trans low less⟩

/-- An object in a tuple in a record in a stream, with the range of its location and a truth value
for its kind: it is read on the second level, and also if many more are allowed. -/
theorem read_outcome_of_mixed_shapes :
    read (.stream [.record [("name", .text "a"), ("kind", .int 4),
        ("range", .list [.int 0, .int 0, .int 2, .int 1]),
        ("children", .tuple [.object [("name", .text "b"), ("kind", .bool true),
          ("location", .record [("range", .tuple [.position ⟨1, 0⟩, .position ⟨1, 3⟩])])]])]])
      (.ofInt (2 : Nat)) =
        .ok [⟨"a", .class, ⟨⟨0, 0⟩, ⟨2, 1⟩, by decide⟩,
          [⟨"b", .unknown, ⟨⟨1, 0⟩, ⟨1, 3⟩, by decide⟩, []⟩]⟩] ∧
    read (.stream [.record [("name", .text "a"), ("kind", .int 4),
        ("range", .list [.int 0, .int 0, .int 2, .int 1]),
        ("children", .tuple [.object [("name", .text "b"), ("kind", .bool true),
          ("location", .record [("range", .tuple [.position ⟨1, 0⟩, .position ⟨1, 3⟩])])]])]])
      (.ofInt (300 : Nat)) =
        .ok [⟨"a", .class, ⟨⟨0, 0⟩, ⟨2, 1⟩, by decide⟩,
          [⟨"b", .unknown, ⟨⟨1, 0⟩, ⟨1, 3⟩, by decide⟩, []⟩]⟩] := by
  refine ⟨(read_outcome _ 2).1.trans rfl, ?_⟩
  exact ((read_outcome _ 2).2.2 _ ((read_outcome _ 2).1.trans rfl)).2.2 300 (by decide)

end OpenDocs.Outline
