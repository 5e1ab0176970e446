import OpenDocs.Headings.Section

/-!
# How sections nest

Going through the headings with a stack of open sections puts each section into the last one before
it that is of a higher level.
-/

namespace OpenDocs.Headings

def Section.extent (s : Section) : Extent := ⟨s.heading, s.endLine⟩

mutual

def Section.preorder : Section → List Section
  | ⟨h, endLine, inner⟩ => ⟨h, endLine, inner⟩ :: preorder inner

/-- The sections, each before those inside. -/
def preorder : List Section → List Section
  | [] => []
  | s :: rest => s.preorder ++ preorder rest

end

theorem preorder_cons (s : Section) (rest : List Section) :
    preorder (s :: rest) = s :: (preorder s.inner ++ preorder rest) := by
  cases s
  rfl

/-- What holds of no sections, and of a section and those beside it if of those inside it and of those
beside it, holds of all sections. -/
@[elab_as_elim]
theorem tree_induction {motive : List Section → Prop} (nil : motive [])
    (cons : ∀ s rest, motive s.inner → motive rest → motive (s :: rest)) : ∀ tree, motive tree
  | [] => nil
  | ⟨h, endLine, inner⟩ :: rest =>
    cons ⟨h, endLine, inner⟩ rest (tree_induction nil cons inner) (tree_induction nil cons rest)

theorem mem_preorder_trans {s t : Section} {tree : List Section} (outer : s ∈ preorder tree)
    (inner : t ∈ preorder s.inner) : t ∈ preorder tree := by
  induction tree using tree_induction with
  | nil => cases outer
  | cons first rest inside beside =>
    rw [preorder_cons, List.mem_cons, List.mem_append] at outer ⊢
    obtain rfl | held | held := outer
    · exact .inr (.inl inner)
    · exact .inr (.inl (inside held))
    · exact .inr (.inr (beside held))

theorem mem_preorder_of_mem {s : Section} {tree : List Section} (met : s ∈ tree) :
    s ∈ preorder tree := by
  induction tree with
  | nil => cases met
  | cons first rest ih =>
    rw [preorder_cons]
    obtain rfl | met := List.mem_cons.mp met
    · exact List.mem_cons_self
    · exact List.mem_cons_of_mem _ (List.mem_append_right _ (ih met))

/-- A heading is followed by those of its section, which are all of lower level, and then by one that
is not. -/
inductive Nests : List Extent → List Section → Prop
  | nil : Nests [] []
  | cons {x : Extent} {inside after : List Extent} {inner rest : List Section} :
      (∀ y ∈ inside, x.heading.level < y.heading.level) → Nests inside inner →
      (∀ y ∈ after.head?, y.heading.level ≤ x.heading.level) → Nests after rest →
      Nests (x :: (inside ++ after)) (⟨x.heading, x.endLine, inner⟩ :: rest)

namespace Nests

theorem append {xs ys : List Extent} {tree others : List Section} (first : Nests xs tree)
    (second : Nests ys others)
    (low : ∀ y ∈ ys.head?, ∀ s ∈ tree, y.heading.level ≤ s.heading.level) :
    Nests (xs ++ ys) (tree ++ others) := by
  induction first with
  | nil => exact second
  | @cons x inside after inner rest deeper inner_nests next _ _ ih =>
    have low_rest := fun y met s (held : s ∈ rest) => low y met s (List.mem_cons_of_mem _ held)
    rw [List.cons_append, List.append_assoc, List.cons_append]
    refine .cons deeper inner_nests ?_ (ih low_rest)
    cases after with
    | nil => exact fun y met => low y met _ List.mem_cons_self
    | cons y after => exact next

theorem map_preorder {xs : List Extent} {tree : List Section} (nests : Nests xs tree) :
    (preorder tree).map Section.extent = xs := by
  induction nests with
  | nil => rfl
  | cons _ _ _ _ inside after =>
    rw [preorder_cons, List.map_cons, List.map_append, inside, after]
    rfl

theorem deeper {xs : List Extent} {tree : List Section} (nests : Nests xs tree) :
    ∀ s ∈ preorder tree, ∀ t ∈ s.inner, s.heading.level < t.heading.level := by
  induction nests with
  | nil => simp [preorder]
  | @cons x inside after inner rest lower inner_nests _ _ within behind =>
    intro s met t held
    rw [preorder_cons, List.mem_cons, List.mem_append] at met
    obtain rfl | met | met := met
    · have extent := List.mem_map_of_mem (f := Section.extent) (mem_preorder_of_mem held)
      rw [inner_nests.map_preorder] at extent
      exact lower _ extent
    · exact within s met t held
    · exact behind s met t held

end Nests

/-- What the open sections say of the headings so far: an open section holds those behind its own
heading, which are all of lower level, and the sections before it are of its level or lower. -/
inductive Stacked : List Extent → List Section → List OpenSection → Prop
  | outermost {xs : List Extent} {here : List Section} : Nests xs here.reverse → Stacked xs here []
  | inside {before xs : List Extent} {here : List Section} {o : OpenSection}
      {outer : List OpenSection} : Stacked before o.before outer →
      (∀ enclosing ∈ outer.head?, enclosing.extent.heading.level < o.extent.heading.level) →
      (∀ s ∈ o.before, o.extent.heading.level ≤ s.heading.level) →
      Nests xs here.reverse → (∀ y ∈ xs, o.extent.heading.level < y.heading.level) →
      Stacked (before ++ o.extent :: xs) here (o :: outer)

namespace Stacked

variable {xs : List Extent} {here : List Section} {stack : List OpenSection}

/-- The innermost section takes in another one. -/
theorem extend {ys : List Extent} {s : Section} (stacked : Stacked xs here stack)
    (nests : Nests ys [s]) (low : ∀ y ∈ ys.head?, ∀ s ∈ here, y.heading.level ≤ s.heading.level)
    (deeper : ∀ o ∈ stack.head?, ∀ y ∈ ys, o.extent.heading.level < y.heading.level) :
    Stacked (xs ++ ys) (s :: here) stack := by
  have low_reverse := fun y met s (held : s ∈ here.reverse) => low y met s (List.mem_reverse.mp held)
  cases stacked with
  | outermost held =>
    refine .outermost ?_
    rw [List.reverse_cons]
    exact held.append nests low_reverse
  | @inside before xs _ o outer beneath enclosed beside held lower =>
    rw [List.append_assoc, List.cons_append]
    refine .inside beneath enclosed beside ?_ ?_
    · rw [List.reverse_cons]
      exact held.append nests low_reverse
    · intro y met
      obtain met | met := List.mem_append.mp met
      · exact lower y met
      · exact deeper o rfl y met

theorem closeTo (level : Nat) (stacked : Stacked xs here stack)
    (low : ∀ s ∈ here, level ≤ s.heading.level) :
    Stacked xs (Headings.closeTo level here stack).1 (Headings.closeTo level here stack).2 ∧
    (∀ o ∈ (Headings.closeTo level here stack).2.head?, o.extent.heading.level < level) ∧
    ∀ s ∈ (Headings.closeTo level here stack).1, level ≤ s.heading.level := by
  induction stack generalizing xs here with
  | nil => exact ⟨stacked, by simp [Headings.closeTo], low⟩
  | cons o outer ih =>
    rw [Headings.closeTo]
    split
    · next closes =>
      cases stacked with
      | @inside before xs _ _ _ beneath enclosed beside held lower =>
        have closed : Nests (o.extent :: xs) [⟨o.extent.heading, o.extent.endLine, here.reverse⟩] := by
          have single := Nests.cons lower held (by simp) Nests.nil
          rwa [List.append_nil] at single
        refine ih (beneath.extend closed ?_ ?_) ?_
        · rintro y ⟨⟩ s met
          exact beside s met
        · intro enclosing met y below
          have less := enclosed enclosing met
          obtain rfl | below := List.mem_cons.mp below
          · exact less
          · exact Nat.lt_trans less (lower y below)
        · intro s met
          obtain rfl | met := List.mem_cons.mp met
          · exact closes
          · exact Nat.le_trans closes (beside s met)
    · next stays =>
      refine ⟨stacked, ?_, low⟩
      rintro _ ⟨⟩
      exact Nat.lt_of_not_le stays

end Stacked

theorem nestFrom_nests {xs rest : List Extent} {stack : List OpenSection}
    (stacked : Stacked xs [] stack) : Nests (xs ++ rest) (nestFrom [] stack rest) := by
  induction rest generalizing xs stack with
  | nil =>
    obtain ⟨closed, high, _⟩ := stacked.closeTo 0 (by simp)
    rw [List.append_nil, nestFrom]
    generalize closeTo 0 [] stack = left at closed high ⊢
    obtain ⟨here, open_⟩ := left
    cases closed with
    | outermost nests => exact nests
    | @inside _ _ _ o => exact absurd (high o rfl) (Nat.not_lt_zero _)
  | cons x rest ih =>
    obtain ⟨closed, high, low⟩ := stacked.closeTo x.heading.level (by simp)
    rw [nestFrom]
    generalize closeTo x.heading.level [] stack = left at closed high low ⊢
    obtain ⟨before, outer⟩ := left
    have opened : Stacked (xs ++ [x]) [] (⟨x, before⟩ :: outer) :=
      .inside (o := ⟨x, before⟩) closed high low .nil (by simp)
    have nests := ih opened
    rwa [List.append_assoc] at nests

theorem nest_nests (xs : List Extent) : Nests xs (nest xs) := nestFrom_nests (.outermost .nil)

end OpenDocs.Headings
