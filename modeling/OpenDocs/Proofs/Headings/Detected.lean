import OpenDocs.Headings.Section
import Mathlib.Tactic.SplitIfs

/-!
# Where headings are found

A heading is found at the first of its lines, and the search goes on behind the last of them. So
each heading is further down than the one before it.
-/

namespace OpenDocs.Headings

theorem level_of_numbered {line title : List Char} {level : Nat}
    (found : numbered? line = some (level, title)) : 1 ≤ level ∧ level ≤ 6 := by
  unfold numbered? at found
  simp only at found
  split_ifs at found with bounds
  all_goals
    cases found
    exact bounds

theorem level_of_underline {line : List Char} {level : Nat} (found : underline? line = some level) :
    1 ≤ level ∧ level ≤ 6 := by
  unfold underline? at found
  split at found
  · simp only at found
    split_ifs at found
    all_goals
      cases found
      decide
  · cases found

/-- Headings on lines from `first` on and before `bound`, each further down than the one before. -/
structure Placed (first bound : Nat) (hs : List Heading) : Prop where
  within : ∀ h ∈ hs, first ≤ h.line ∧ h.line < bound
  increasing : hs.Pairwise (·.line < ·.line)

namespace Placed

variable {first bound : Nat} {hs : List Heading}

theorem nil : Placed first bound [] := ⟨by simp, .nil⟩

theorem widen {first' bound' : Nat} (placed : Placed first bound hs) (earlier : first' ≤ first)
    (later : bound ≤ bound') : Placed first' bound' hs := by
  refine ⟨fun h met => ?_, placed.increasing⟩
  obtain ⟨low, high⟩ := placed.within h met
  exact ⟨Nat.le_trans earlier low, Nat.lt_of_lt_of_le high later⟩

theorem cons (placed : Placed first bound hs) (h : Heading) (above : h.line < first)
    (below : h.line < bound) : Placed h.line bound (h :: hs) := by
  refine ⟨?_, List.pairwise_cons.mpr ⟨fun k met => ?_, placed.increasing⟩⟩
  · rintro k (_ | ⟨_, met⟩)
    · exact ⟨Nat.le_refl _, below⟩
    · obtain ⟨low, high⟩ := placed.within k met
      exact ⟨by omega, high⟩
  · exact Nat.lt_of_lt_of_le above (placed.within k met).1

end Placed

theorem scan_placed (fence : Option Fence) (index : Nat) (lines : List (List Char)) :
    Placed index (index + lines.length) (scan fence index lines) := by
  fun_induction scan fence index lines with
  | case1 | case5 => exact .nil
  | case2 _ _ _ _ ih | case3 _ _ _ _ _ ih | case7 _ _ _ _ _ _ _ _ ih =>
    exact ih.widen (Nat.le_succ _) (by simp only [List.length_cons]; omega)
  | case4 index line rest _ level title _ ih =>
    rw [List.length_cons]
    exact (ih.widen (Nat.le_refl _) (by omega)).cons ⟨title, level, index⟩ (Nat.lt_succ_self _)
      (Nat.lt_add_of_pos_right (Nat.succ_pos _))
  | case6 index line _ _ below rest text level _ ih =>
    rw [List.length_cons, List.length_cons]
    exact (ih.widen (Nat.le_refl _) (by omega)).cons ⟨text, level, index⟩
      (Nat.lt_add_of_pos_right (Nat.succ_pos _)) (Nat.lt_add_of_pos_right (Nat.succ_pos _))

theorem level_of_mem_scan {fence : Option Fence} {index : Nat} {lines : List (List Char)} :
    ∀ h ∈ scan fence index lines, 1 ≤ h.level ∧ h.level ≤ 6 := by
  fun_induction scan fence index lines with
  | case1 | case5 => simp
  | case2 _ _ _ _ ih | case3 _ _ _ _ _ ih | case7 _ _ _ _ _ _ _ _ ih => exact ih
  | case4 index line rest _ level title found ih =>
    exact List.forall_mem_cons.mpr ⟨level_of_numbered found, ih⟩
  | case6 index line _ _ below rest text level found ih =>
    refine List.forall_mem_cons.mpr ⟨?_, ih⟩
    split_ifs at found
    exact level_of_underline found

theorem headings_placed (lines : List (List Char)) : Placed 0 lines.length (headings lines) := by
  have placed := scan_placed none 0 lines
  rwa [Nat.zero_add] at placed

theorem level_of_mem_headings {lines : List (List Char)} :
    ∀ h ∈ headings lines, 1 ≤ h.level ∧ h.level ≤ 6 := level_of_mem_scan

end OpenDocs.Headings
