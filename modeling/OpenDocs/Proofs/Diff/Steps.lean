import OpenDocs.Diff.Hunk
import OpenDocs.Proofs.Diff.Blocks

/-!
# Steps from one sequence to another

The steps cover both sequences without gaps. A kept step has the same items on both sides, any other
has some items, and no two kept steps follow one another.
-/

namespace OpenDocs.Diff

variable {Item : Type} {old new : List Item}

/-- The items between two bounds. -/
def span (items : List Item) (start stop : Nat) : List Item := (items.take stop).drop start

section span
variable {items : List Item} {start mid stop : Nat}

theorem length_span : (span items start stop).length = min stop items.length - start := by
  rw [span, List.length_drop, List.length_take]

@[simp] theorem span_self : span items start start = [] := by
  rw [span, List.drop_eq_nil_iff, List.length_take]
  exact Nat.min_le_left ..

theorem span_length : span items start items.length = items.drop start := by
  rw [span, List.take_length]

theorem take_span (items : List Item) (start stop n : Nat) :
    (span items start stop).take n = span items start (min stop (start + n)) := by
  rw [span, span, List.take_drop, List.take_take, Nat.min_comm]

theorem drop_span (items : List Item) (start stop n : Nat) :
    (span items start stop).drop n = span items (start + n) stop := by
  rw [span, span, List.drop_drop]

theorem span_append (low : start ≤ mid) (high : mid ≤ stop) :
    span items start mid ++ span items mid stop = span items start stop := by
  have first := take_span items start stop (mid - start)
  have second := drop_span items start stop (mid - start)
  rw [Nat.add_sub_cancel' low] at first second
  rw [Nat.min_eq_right high] at first
  rw [← first, ← second, List.take_append_drop]

end span

theorem Block.Matches.span_eq {b : Block} (same : b.Matches old new) :
    span old b.old (b.old + b.size) = span new b.new (b.new + b.size) := by
  apply List.ext_getElem?
  intro m
  rw [span, span, List.getElem?_drop, List.getElem?_drop, List.getElem?_take, List.getElem?_take]
  obtain within | beyond := Nat.lt_or_ge m b.size
  · rw [if_pos (Nat.add_lt_add_left within _), if_pos (Nat.add_lt_add_left within _), same m within]
  · rw [if_neg (by omega), if_neg (by omega)]

/-- The bounds of the step are in order and within the sequences; its items are the same on both
sides if it is kept, and there are some if it is not. -/
structure Step.Valid (old new : List Item) (s : Step) : Prop where
  old_le : s.oldStart ≤ s.oldStop
  new_le : s.newStart ≤ s.newStop
  old_length : s.oldStop ≤ old.length
  new_length : s.newStop ≤ new.length
  same : s.kept = true → span old s.oldStart s.oldStop = span new s.newStart s.newStop
  changes : s.kept = false → s.oldStart < s.oldStop ∨ s.newStart < s.newStop

/-- The steps lead from two places to two others. -/
inductive Leads (old new : List Item) : Nat → Nat → Nat → Nat → List Step → Prop
  | nil {i j : Nat} : Leads old new i j i j []
  | cons {i j oldStop newStop : Nat} {s : Step} {rest : List Step} : s.oldStart = i →
      s.newStart = j → s.Valid old new → Leads old new s.oldStop s.newStop oldStop newStop rest →
      Leads old new i j oldStop newStop (s :: rest)

/-- No two kept steps follow one another. -/
def Alternate (steps : List Step) : Prop :=
  (steps.map Step.kept).IsChain fun first second => ¬(first = true ∧ second = true)

theorem alternate_cons {s : Step} {rest : List Step} :
    Alternate (s :: rest) ↔
      (∀ t ∈ rest.head?, ¬(s.kept = true ∧ t.kept = true)) ∧ Alternate rest := by
  rw [Alternate, List.map_cons, List.isChain_cons, List.head?_map, Alternate]
  simp only [Option.mem_def, Option.map_eq_some_iff, forall_exists_index, and_imp,
    forall_apply_eq_imp_iff₂]

theorem alternate_append {first second : List Step} :
    Alternate (first ++ second) ↔ Alternate first ∧ Alternate second ∧
      ∀ s ∈ first.getLast?, ∀ t ∈ second.head?, ¬(s.kept = true ∧ t.kept = true) := by
  rw [Alternate, List.map_append, List.isChain_append, List.getLast?_map, List.head?_map, Alternate,
    Alternate]
  simp only [Option.mem_def, Option.map_eq_some_iff, forall_exists_index, and_imp,
    forall_apply_eq_imp_iff₂]

namespace Leads

theorem append {i j oldMid newMid oldStop newStop : Nat} {first second : List Step}
    (before : Leads old new i j oldMid newMid first)
    (behind : Leads old new oldMid newMid oldStop newStop second) :
    Leads old new i j oldStop newStop (first ++ second) := by
  induction before with
  | nil => exact behind
  | cons old_eq new_eq valid _ ih => exact .cons old_eq new_eq valid (ih behind)

theorem single {s : Step} (valid : s.Valid old new) :
    Leads old new s.oldStart s.newStart s.oldStop s.newStop [s] := .cons rfl rfl valid .nil

theorem le {i j oldStop newStop : Nat} {steps : List Step}
    (leads : Leads old new i j oldStop newStop steps) : i ≤ oldStop ∧ j ≤ newStop := by
  induction leads with
  | nil => exact ⟨Nat.le_refl _, Nat.le_refl _⟩
  | cons old_eq new_eq valid _ ih =>
    subst old_eq new_eq
    exact ⟨Nat.le_trans valid.old_le ih.1, Nat.le_trans valid.new_le ih.2⟩

end Leads

theorem Ordered.le {i j oldStop newStop : Nat} {blocks : List Block}
    (ordered : Ordered old new i j oldStop newStop blocks) : i ≤ oldStop ∧ j ≤ newStop := by
  induction ordered with
  | nil old_le new_le => exact ⟨old_le, new_le⟩
  | cons old_le new_le _ _ _ ih => omega

/-- What lies between two places and two later ones is a step, or there is nothing. -/
theorem leads_gap {i j k l : Nat} (old_le : i ≤ k) (new_le : j ≤ l) (old_length : k ≤ old.length)
    (new_length : l ≤ new.length) :
    Leads old new i j k l (if i < k ∨ j < l then [⟨false, i, k, j, l⟩] else []) := by
  split
  · next some =>
    have valid : Step.Valid old new ⟨false, i, k, j, l⟩ :=
      ⟨old_le, new_le, old_length, new_length, (fun kept => nomatch kept), fun _ => some⟩
    exact .single valid
  · next none =>
    obtain ⟨old_ge, new_ge⟩ := not_or.mp none
    obtain rfl := Nat.le_antisymm old_le (Nat.le_of_not_lt old_ge)
    obtain rfl := Nat.le_antisymm new_le (Nat.le_of_not_lt new_ge)
    exact .nil

theorem stepsFrom_leads {i j oldStop newStop : Nat} {blocks : List Block}
    (ordered : Ordered old new i j oldStop newStop blocks) (old_length : oldStop ≤ old.length)
    (new_length : newStop ≤ new.length) :
    Leads old new i j oldStop newStop (stepsFrom i j oldStop newStop blocks) := by
  induction ordered with
  | nil old_le new_le => exact leads_gap old_le new_le old_length new_length
  | @cons i j oldStop newStop b rest old_le new_le _ same ordered ih =>
    obtain ⟨old_stop, new_stop⟩ := ordered.le
    have valid : Step.Valid old new ⟨true, b.old, b.old + b.size, b.new, b.new + b.size⟩ :=
      ⟨Nat.le_add_right _ _, Nat.le_add_right _ _, Nat.le_trans old_stop old_length,
        Nat.le_trans new_stop new_length, fun _ => same.span_eq, fun changed => nomatch changed⟩
    rw [stepsFrom]
    refine (leads_gap old_le new_le ?_ ?_).append (.cons rfl rfl valid (ih old_length new_length))
    · exact Nat.le_trans (Nat.le_add_right _ _) valid.old_length
    · exact Nat.le_trans (Nat.le_add_right _ _) valid.new_length

/-- Behind a gap there is no kept step first. -/
theorem kept_head_stepsFrom {i j oldStop newStop : Nat} {blocks : List Block}
    (gap : ∀ b ∈ blocks.head?, i < b.old ∨ j < b.new) :
    ∀ s ∈ (stepsFrom i j oldStop newStop blocks).head?, s.kept = false := by
  cases blocks with
  | nil =>
    rw [stepsFrom]
    split <;> simp
  | cons b rest =>
    rw [stepsFrom, if_pos (gap b rfl)]
    simp

theorem stepsFrom_alternate {i j oldStop newStop : Nat} {blocks : List Block}
    (ordered : Ordered old new i j oldStop newStop blocks) (apart : blocks.IsChain Block.Apart) :
    Alternate (stepsFrom i j oldStop newStop blocks) := by
  induction ordered with
  | nil =>
    rw [stepsFrom, Alternate]
    split <;> simp
  | @cons i j oldStop newStop b rest _ _ _ _ ordered ih =>
    have later := ih apart.tail
    have gap : ∀ c ∈ rest.head?, b.old + b.size < c.old ∨ b.new + b.size < c.new := by
      intro c met
      cases ordered with
      | nil => cases met
      | cons old_le new_le =>
        obtain rfl := Option.some.inj met
        have different := (List.isChain_cons_cons.mp apart).1
        rw [Block.Apart] at different
        omega
    have first : ∀ s ∈ (stepsFrom (b.old + b.size) (b.new + b.size) oldStop newStop rest).head?,
        s.kept = false := kept_head_stepsFrom gap
    have kept : Alternate (⟨true, b.old, b.old + b.size, b.new, b.new + b.size⟩ ::
        stepsFrom (b.old + b.size) (b.new + b.size) oldStop newStop rest) :=
      alternate_cons.mpr ⟨fun t met => by simp [first t met], later⟩
    rw [stepsFrom]
    split
    · exact alternate_cons.mpr ⟨by simp, kept⟩
    · exact kept

theorem steps_leads [DecidableEq Item] (old new : List Item) :
    Leads old new 0 0 old.length new.length (steps old new) :=
  stepsFrom_leads (matchingBlocks_ordered old new) (Nat.le_refl _) (Nat.le_refl _)

theorem steps_alternate [DecidableEq Item] (old new : List Item) : Alternate (steps old new) :=
  stepsFrom_alternate (matchingBlocks_ordered old new) (matchingBlocks_apart old new)

end OpenDocs.Diff
