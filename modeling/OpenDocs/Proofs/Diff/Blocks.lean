import OpenDocs.Diff.Matching
import Mathlib.Data.List.Chain

/-!
# Matching blocks are common to both sequences

However a block was searched for, its items are the same in both sequences; the blocks are in order
in both of them, and no block follows another one directly.
-/

namespace OpenDocs.Diff

variable {Item : Type} {old new : List Item}

/-- The block holds the same items in both sequences. -/
def Block.Matches (old new : List Item) (b : Block) : Prop :=
  ∀ m, m < b.size → old[b.old + m]? = new[b.new + m]?

theorem matches_append {i j size more : Nat} (first : Block.Matches old new ⟨i, j, size⟩)
    (second : Block.Matches old new ⟨i + size, j + size, more⟩) :
    Block.Matches old new ⟨i, j, size + more⟩ := by
  intro m less
  obtain inside | beyond := Nat.lt_or_ge m size
  · exact first m inside
  · have same := second (m - size) (by simp only at less ⊢; omega)
    simp only at same ⊢
    rwa [show i + size + (m - size) = i + m by omega,
      show j + size + (m - size) = j + m by omega] at same

/-- Blocks in order in both sequences, from two places up to two others. -/
inductive Ordered (old new : List Item) : Nat → Nat → Nat → Nat → List Block → Prop
  | nil {i j oldStop newStop : Nat} : i ≤ oldStop → j ≤ newStop →
      Ordered old new i j oldStop newStop []
  | cons {i j oldStop newStop : Nat} {b : Block} {rest : List Block} : i ≤ b.old → j ≤ b.new →
      0 < b.size → b.Matches old new →
      Ordered old new (b.old + b.size) (b.new + b.size) oldStop newStop rest →
      Ordered old new i j oldStop newStop (b :: rest)

theorem Ordered.append {i j oldMid newMid oldStop newStop : Nat} {first second : List Block}
    (before : Ordered old new i j oldMid newMid first)
    (behind : Ordered old new oldMid newMid oldStop newStop second) :
    Ordered old new i j oldStop newStop (first ++ second) := by
  induction before with
  | nil old_le new_le =>
    cases behind with
    | nil old_le' new_le' => exact .nil (Nat.le_trans old_le old_le') (Nat.le_trans new_le new_le')
    | cons old_le' new_le' held same rest =>
      exact .cons (Nat.le_trans old_le old_le') (Nat.le_trans new_le new_le') held same rest
  | cons old_le new_le held same _ ih => exact .cons old_le new_le held same (ih behind)

theorem Ordered.joinBlocks {i j oldStop newStop : Nat} {blocks : List Block}
    (ordered : Ordered old new i j oldStop newStop blocks) :
    Ordered old new i j oldStop newStop (joinBlocks blocks) := by
  induction ordered with
  | nil old_le new_le => exact .nil old_le new_le
  | @cons i j oldStop newStop b rest old_le new_le held same _ ih =>
    rw [Diff.joinBlocks]
    split
    · next c more joined =>
      rw [joined] at ih
      split
      · next meets =>
        cases ih with
        | cons _ _ _ same' rest =>
          obtain ⟨c_old, c_new, c_size⟩ := c
          obtain ⟨rfl, rfl⟩ := meets
          refine .cons old_le new_le (Nat.add_pos_left held _) (matches_append same same') ?_
          rwa [Nat.add_assoc, Nat.add_assoc] at rest
      · exact .cons old_le new_le held same ih
    · next joined =>
      rw [joined] at ih
      exact .cons old_le new_le held same ih

/-- The second block does not go on where the first one ends. -/
def Block.Apart (b c : Block) : Prop := ¬(b.old + b.size = c.old ∧ b.new + b.size = c.new)

theorem joinBlocks_apart (blocks : List Block) : (joinBlocks blocks).IsChain Block.Apart := by
  induction blocks with
  | nil => exact .nil
  | cons b rest ih =>
    rw [joinBlocks]
    split
    · next c more joined =>
      rw [joined] at ih
      split
      · next meets =>
        cases more with
        | nil => exact .singleton _
        | cons d more =>
          obtain ⟨apart, later⟩ := List.isChain_cons_cons.mp ih
          refine List.isChain_cons_cons.mpr ⟨?_, later⟩
          rintro ⟨old_meets, new_meets⟩
          simp only at old_meets new_meets
          exact apart ⟨by omega, by omega⟩
      · next apart => exact List.isChain_cons_cons.mpr ⟨apart, ih⟩
    · exact .singleton b

variable [DecidableEq Item]

theorem mem_indicesOf {x : Item} {items : List Item} {j : Nat} :
    j ∈ indicesOf x items ↔ items[j]? = some x := by
  rw [indicesOf, List.mem_map]
  constructor
  · rintro ⟨⟨y, k⟩, held, rfl⟩
    obtain ⟨held, same⟩ := List.mem_filter.mp held
    rw [← of_decide_eq_true same]
    exact List.mem_zipIdx_iff_getElem?.mp held
  · intro found
    exact ⟨(x, j), List.mem_filter.mpr ⟨List.mem_zipIdx_iff_getElem?.mpr found, by simp⟩, rfl⟩

theorem getElem?_candidates (i : Nat) :
    (candidates old new)[i]?.getD [] = match old[i]? with
      | none => []
      | some x =>
        if isCommon new.length (indicesOf x new).length then [] else indicesOf x new := by
  rw [candidates, List.getElem?_toArray, List.getElem?_map]
  cases old[i]? <;> rfl

theorem same_of_mem_candidates {i j : Nat} (met : j ∈ (candidates old new)[i]?.getD []) :
    ∃ x, old[i]? = some x ∧ new[j]? = some x := by
  rw [getElem?_candidates] at met
  cases found : old[i]? with
  | none =>
    rw [found] at met
    cases met
  | some x =>
    rw [found] at met
    simp only at met
    split at met
    · cases met
    · exact ⟨x, rfl, mem_indicesOf.mp met⟩

theorem Run.matches {low high start i j size : Nat}
    (run : Run (candidates old new) low high start i j size) :
    Block.Matches old new ⟨i + 1 - size, j + 1 - size, size⟩ := by
  intro m less
  have old_le := run.old_le
  have new_le := run.new_le
  obtain ⟨x, here, there⟩ := same_of_mem_candidates
    (run.listed (size - 1 - m) (by simp only at less; omega))
  simp only at less ⊢
  rw [show i + 1 - size + m = i - (size - 1 - m) by omega,
    show j + 1 - size + m = j - (size - 1 - m) by omega, here, there]

theorem growBack_matches {oldLow newLow : Nat} {b : Block} (same : b.Matches old new) :
    (growBack old.toArray new.toArray oldLow newLow b).Matches old new := by
  fun_induction growBack old.toArray new.toArray oldLow newLow b with
  | case1 b room ih =>
    refine ih fun m less => ?_
    cases m with
    | zero => simpa using room.2.2
    | succ m =>
      have equal := same m (Nat.lt_of_succ_lt_succ less)
      simp only
      rwa [show b.old - 1 + (m + 1) = b.old + m by omega,
        show b.new - 1 + (m + 1) = b.new + m by omega]
  | case2 b _ => exact same

theorem growOn_matches {oldHigh newHigh : Nat} {b : Block} (same : b.Matches old new) :
    (growOn old.toArray new.toArray oldHigh newHigh b).Matches old new := by
  fun_induction growOn old.toArray new.toArray oldHigh newHigh b with
  | case1 b room ih =>
    refine ih fun m less => ?_
    obtain earlier | rfl := Nat.lt_succ_iff_lt_or_eq.mp less
    · exact same m earlier
    · simpa using room.2.2
  | case2 b _ => exact same

theorem longestBlock_matches (oldLow oldHigh newLow newHigh : Nat) :
    (longestBlock old.toArray new.toArray (candidates old new) oldLow oldHigh newLow newHigh).Matches
      old new := by
  refine growOn_matches (growBack_matches ?_)
  obtain none | ⟨last, j, k, _, _, run, found⟩ :=
    longestRun_start (candidates old new) newLow newHigh oldLow (oldHigh - oldLow)
  · rw [none]
    exact fun m less => absurd less (Nat.not_lt_zero m)
  · rw [found]
    exact run.matches

theorem blocksWithin_ordered {oldLow oldHigh newLow newHigh : Nat} (old_le : oldLow ≤ oldHigh)
    (new_le : newLow ≤ newHigh) :
    Ordered old new oldLow newLow oldHigh newHigh
      (blocksWithin old.toArray new.toArray (candidates old new) oldLow oldHigh newLow newHigh) := by
  fun_induction blocksWithin old.toArray new.toArray (candidates old new) oldLow oldHigh newLow
    newHigh with
  | case1 => exact .nil old_le new_le
  | case2 oldLow oldHigh newLow newHigh b held before behind ih_before ih_behind =>
    have positive : 0 < b.size := Nat.pos_of_ne_zero held
    have within : b.Within oldLow oldHigh newLow newHigh := longestBlock_within _
    obtain ⟨old_ends, new_ends⟩ := within.le positive
    have left : Ordered old new oldLow newLow b.old b.new before := by
      unfold before
      split
      · exact ih_before within.old_ge within.new_ge
      · exact .nil within.old_ge within.new_ge
    have right : Ordered old new (b.old + b.size) (b.new + b.size) oldHigh newHigh behind := by
      unfold behind
      split
      · exact ih_behind old_ends new_ends
      · exact .nil old_ends new_ends
    have same : b.Matches old new := longestBlock_matches _ _ _ _
    exact left.append (.cons (Nat.le_refl _) (Nat.le_refl _) positive same right)

theorem matchingBlocks_ordered (old new : List Item) :
    Ordered old new 0 0 old.length new.length (matchingBlocks old new) :=
  (blocksWithin_ordered (Nat.zero_le _) (Nat.zero_le _)).joinBlocks

theorem matchingBlocks_apart (old new : List Item) :
    (matchingBlocks old new).IsChain Block.Apart := joinBlocks_apart _

end OpenDocs.Diff
