import OpenDocs.Proofs.Headings.Detected
import OpenDocs.Proofs.Headings.Nesting
import Mathlib.Data.List.Basic

/-!
# What sections cover

The last lines that are found by looking ahead from each heading agree with the nesting that is
found with the stack: a section holds the headings on its lines, and no others.
-/

namespace OpenDocs.Headings

@[simp] theorem map_heading_extents (stop : Nat) (hs : List Heading) :
    (extents stop hs).map (·.heading) = hs := by
  induction hs with
  | nil => rfl
  | cons h rest ih => rw [extents, List.map_cons, ih]

/-- The last line before the next heading, or before the end. -/
def lineBefore (stop : Nat) : List Heading → Nat
  | [] => stop
  | k :: _ => k.line - 1

theorem endLine_append {stop : Nat} {h : Heading} {inside after : List Heading}
    (lines : ∀ k ∈ after, h.line < k.line) (next : ∀ k ∈ after.head?, k.level ≤ h.level) :
    endLine stop h (inside ++ after) = endLine (lineBefore stop after) h inside := by
  rw [endLine, endLine, List.find?_append]
  cases inside.find? (·.level ≤ h.level) with
  | some k => rfl
  | none =>
    rw [Option.none_or]
    cases after with
    | nil => rfl
    | cons k after =>
      have below := lines k List.mem_cons_self
      have ends : (k :: after).find? (·.level ≤ h.level) = some k :=
        List.find?_cons_of_pos (decide_eq_true (next k rfl))
      rw [ends]
      exact Nat.max_eq_right (Nat.le_sub_one_of_lt below)

/-- Looking ahead stops at a heading that ends all sections before it. -/
theorem extents_append {stop : Nat} {inside after : List Heading}
    (lines : (inside ++ after).Pairwise (·.line < ·.line))
    (next : ∀ k ∈ after.head?, ∀ h ∈ inside, k.level ≤ h.level) :
    extents stop (inside ++ after) =
      extents (lineBefore stop after) inside ++ extents stop after := by
  induction inside with
  | nil => rfl
  | cons h inside ih =>
    obtain ⟨above, lines⟩ := List.pairwise_cons.mp lines
    rw [List.cons_append, extents, extents, List.cons_append,
      endLine_append (fun k met => above k (List.mem_append_right _ met))
        fun k met => next k met h List.mem_cons_self,
      ih lines fun k met g held => next k met g (List.mem_cons_of_mem _ held)]

/-- The sections cover the headings up to the line `stop`: each runs from its heading to the line
before the next section beside it, and covers the headings in between. -/
inductive Covers : Nat → List Heading → List Section → Prop
  | nil {stop : Nat} : Covers stop [] []
  | cons {stop last : Nat} {h : Heading} {inside after : List Heading} {inner rest : List Section} :
      Placed h.line (last + 1) (h :: inside) → Covers last inside inner →
      (∀ k ∈ after.head?, k.line = last + 1) → (after = [] → last = stop) →
      Placed (last + 1) (stop + 1) after → Covers stop after rest →
      Covers stop (h :: (inside ++ after)) (⟨h, last, inner⟩ :: rest)

theorem Placed.tail {first bound : Nat} {h : Heading} {hs : List Heading}
    (placed : Placed first bound (h :: hs)) : Placed (h.line + 1) bound hs := by
  obtain ⟨above, increasing⟩ := List.pairwise_cons.mp placed.increasing
  exact ⟨fun k met => ⟨above k met, (placed.within k (List.mem_cons_of_mem _ met)).2⟩, increasing⟩

/-- The first heading behind a section ends it, and what is behind it comes later. -/
theorem Placed.split {first stop : Nat} {h : Heading} {inside after : List Heading}
    (placed : Placed first (stop + 1) (h :: (inside ++ after))) :
    Placed h.line (lineBefore stop after + 1) (h :: inside) ∧
    Placed (lineBefore stop after + 1) (stop + 1) after ∧
    ∀ k ∈ after.head?, k.line = lineBefore stop after + 1 := by
  have increasing := placed.increasing
  rw [← List.cons_append, List.pairwise_append] at increasing
  obtain ⟨inner, outer, apart⟩ := increasing
  have starts : ∀ k ∈ h :: inside, h.line ≤ k.line := by
    rintro k (_ | ⟨_, met⟩)
    · exact Nat.le_refl _
    · exact Nat.le_of_lt ((List.pairwise_cons.mp inner).1 k met)
  cases after with
  | nil =>
    rw [List.append_nil] at placed
    exact ⟨⟨fun k met => ⟨starts k met, (placed.within k met).2⟩, inner⟩, .nil, by simp⟩
  | cons k after =>
    have before : ∀ g ∈ h :: inside, g.line < k.line := fun g met => apart g met k List.mem_cons_self
    have joined : lineBefore stop (k :: after) + 1 = k.line :=
      Nat.sub_add_cancel (Nat.zero_lt_of_lt (before h List.mem_cons_self))
    rw [joined]
    refine ⟨⟨fun g met => ⟨starts g met, before g met⟩, inner⟩, ⟨fun g met => ?_, outer⟩, ?_⟩
    · refine ⟨?_, (placed.within g (List.mem_cons_of_mem _ (List.mem_append_right _ met))).2⟩
      obtain rfl | met := List.mem_cons.mp met
      · exact Nat.le_refl _
      · exact Nat.le_of_lt ((List.pairwise_cons.mp outer).1 g met)
    · rintro _ ⟨⟩
      rfl

theorem length_extents (stop : Nat) (hs : List Heading) : (extents stop hs).length = hs.length := by
  have lengths := congrArg List.length (map_heading_extents stop hs)
  rwa [List.length_map] at lengths

/-- Looking ahead and nesting with the stack agree on where the sections end. -/
theorem Nests.covers {xs : List Extent} {tree : List Section} (nests : Nests xs tree)
    {first stop : Nat}
    {hs : List Heading} (scanned : xs = extents stop hs) (placed : Placed first (stop + 1) hs) :
    Covers stop hs tree := by
  induction nests generalizing first stop hs with
  | nil =>
    have none := congrArg List.length scanned
    rw [length_extents] at none
    rw [List.length_eq_zero_iff.mp none.symm]
    exact .nil
  | @cons x inside after inner rest deeper _ next _ within behind =>
    obtain _ | ⟨h, more⟩ := hs
    · cases scanned
    obtain ⟨rfl, more_scanned⟩ := List.cons.inj scanned
    -- the headings are divided as their extents are
    have divided := congrArg (List.map (·.heading)) more_scanned
    rw [map_heading_extents, List.map_append] at divided
    subst divided
    obtain ⟨own, later, joined⟩ := placed.split
    have closes : ∀ k ∈ (after.map (·.heading)).head?, k.level ≤ h.level := by
      intro k met
      rw [List.head?_map, Option.mem_def, Option.map_eq_some_iff] at met
      obtain ⟨y, met, rfl⟩ := met
      exact next y met
    have lower : ∀ g ∈ inside.map (·.heading), h.level < g.level := List.forall_mem_map.mpr deeper
    rw [extents_append placed.tail.increasing fun k met g held =>
      Nat.le_trans (closes k met) (Nat.le_of_lt (lower g held))] at more_scanned
    obtain ⟨inside_scanned, after_scanned⟩ := List.append_inj more_scanned (by simp [length_extents])
    have ends : endLine stop h (inside.map (·.heading) ++ after.map (·.heading)) =
        lineBefore stop (after.map (·.heading)) := by
      have above := fun k met => (placed.tail.within k (List.mem_append_right _ met)).1
      rw [endLine_append above closes, endLine, List.find?_eq_none.mpr]
      intro g held
      simpa using lower g held
    rw [ends]
    exact .cons own (within inside_scanned own.tail) joined (fun none => by rw [none]; rfl) later
      (behind after_scanned later)

/-- Sections side by side, each right behind the one before, down to the line `stop`. -/
structure Tiles (stop : Nat) (row : List Section) : Prop where
  next : row.IsChain fun s t => t.heading.line = s.endLine + 1
  last : ∀ s ∈ row.getLast?, s.endLine = stop

namespace Covers

variable {stop : Nat} {hs : List Heading} {tree : List Section}

theorem map_preorder (covers : Covers stop hs tree) :
    (preorder tree).map (·.heading) = hs := by
  induction covers with
  | nil => rfl
  | cons _ _ _ _ _ _ inside behind =>
    rw [preorder_cons, List.map_cons, List.map_append, inside, behind]

theorem heading_mem (covers : Covers stop hs tree) {s : Section} (met : s ∈ preorder tree) :
    s.heading ∈ hs := by
  rw [← covers.map_preorder]
  exact List.mem_map_of_mem met

theorem bounds (covers : Covers stop hs tree) :
    ∀ s ∈ preorder tree, s.heading.line ≤ s.endLine ∧ s.endLine ≤ stop := by
  induction covers with
  | nil => simp [preorder]
  | @cons stop last h inside after inner rest own _ next final later _ within behind =>
    have low : last ≤ stop := by
      cases after with
      | nil => exact Nat.le_of_eq (final rfl)
      | cons k after =>
        have bounds := later.within k List.mem_cons_self
        omega
    intro s met
    rw [preorder_cons, List.mem_cons, List.mem_append] at met
    obtain rfl | met | met := met
    · exact ⟨Nat.le_of_lt_succ (own.within h List.mem_cons_self).2, low⟩
    · exact ⟨(within s met).1, Nat.le_trans (within s met).2 low⟩
    · exact behind s met

/-- The headings inside a section are those on its lines below its own heading, in order. -/
theorem map_inner (covers : Covers stop hs tree) :
    ∀ s ∈ preorder tree, (preorder s.inner).map (·.heading) =
      hs.filter fun k => s.heading.line < k.line ∧ k.line ≤ s.endLine := by
  induction covers with
  | nil => simp [preorder]
  | @cons stop last h inside after inner rest own inner_covers _ _ later rest_covers within behind =>
    have inside_lines : ∀ k ∈ inside, h.line < k.line ∧ k.line ≤ last := fun k met =>
      ⟨(own.tail.within k met).1, Nat.le_of_lt_succ (own.tail.within k met).2⟩
    have after_lines : ∀ k ∈ after, last < k.line := fun k met => (later.within k met).1
    intro s met
    rw [preorder_cons, List.mem_cons, List.mem_append] at met
    rw [List.filter_cons, List.filter_append]
    obtain rfl | met | met := met
    · have all : inside.filter (fun k => h.line < k.line ∧ k.line ≤ last) = inside :=
        List.filter_eq_self.mpr fun k held => decide_eq_true (inside_lines k held)
      have none : after.filter (fun k => h.line < k.line ∧ k.line ≤ last) = [] :=
        List.filter_eq_nil_iff.mpr fun k held => by simpa using fun _ => after_lines k held
      rw [if_neg (by simp), all, none, List.append_nil]
      exact inner_covers.map_preorder
    · have start := inside_lines _ (inner_covers.heading_mem met)
      have stop := (inner_covers.bounds s met).2
      have none : after.filter (fun k => s.heading.line < k.line ∧ k.line ≤ s.endLine) = [] := by
        refine List.filter_eq_nil_iff.mpr fun k held => ?_
        have line := after_lines k held
        simp only [decide_eq_true_eq]
        omega
      rw [if_neg (by simp only [decide_eq_true_eq]; omega), none, List.append_nil]
      exact within s met
    · have start := after_lines _ (rest_covers.heading_mem met)
      have own_line := Nat.le_of_lt_succ (own.within h List.mem_cons_self).2
      have none : inside.filter (fun k => s.heading.line < k.line ∧ k.line ≤ s.endLine) = [] := by
        refine List.filter_eq_nil_iff.mpr fun k held => ?_
        have line := inside_lines k held
        simp only [decide_eq_true_eq]
        omega
      rw [if_neg (by simp only [decide_eq_true_eq]; omega), none, List.nil_append]
      exact behind s met

theorem tiles (covers : Covers stop hs tree) : Tiles stop tree := by
  induction covers with
  | nil => exact ⟨.nil, by simp⟩
  | @cons stop last h inside after inner rest _ _ next final _ rest_covers _ behind =>
    cases rest_covers with
    | nil =>
      refine ⟨.singleton _, ?_⟩
      rintro _ ⟨⟩
      exact final rfl
    | cons =>
      refine ⟨List.isChain_cons_cons.mpr ⟨next _ rfl, behind.next⟩, ?_⟩
      rw [List.getLast?_cons_cons]
      exact behind.last

theorem inner_tiles (covers : Covers stop hs tree) :
    ∀ s ∈ preorder tree, Tiles s.endLine s.inner := by
  induction covers with
  | nil => simp [preorder]
  | cons _ inner_covers _ _ _ _ within behind =>
    intro s met
    rw [preorder_cons, List.mem_cons, List.mem_append] at met
    obtain rfl | met | met := met
    · exact inner_covers.tiles
    · exact within s met
    · exact behind s met

end Covers

end OpenDocs.Headings
