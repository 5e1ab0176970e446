import OpenDocs.Text.Lines

/-!
# Texts of one line

The lines of a text are what stands between its breaks, and have none in them.
-/

namespace OpenDocs.Text

/-- A text without a line feed. -/
def OneLine (s : String) : Prop := '\n' ∉ s.toList

instance (s : String) : Decidable (OneLine s) := inferInstanceAs (Decidable ('\n' ∉ s.toList))

theorem Line.chars_of_append (before here behind : List Char) (width : Nat) :
    Line.chars ⟨before.length, here.length, width⟩ (before ++ here ++ behind) = here := by
  rw [Line.chars, List.append_assoc, List.drop_left, List.take_left]

/-- The line that is open so far is `here`, and holds no break; nor do the lines that follow it. -/
theorem not_mem_chars_of_mem_linesFrom {start length : Nat} {t : List Char}
    (before here : List Char) (from_eq : before.length = start) (length_eq : here.length = length)
    (free : '\n' ∉ here) :
    ∀ l ∈ linesFrom start length t, '\n' ∉ l.chars (before ++ here ++ t) := by
  fun_induction linesFrom start length t generalizing before here with
  | case1 start length =>
    subst from_eq length_eq
    rw [List.forall_mem_singleton, Line.chars_of_append]
    exact free
  | case2 start length rest ih =>
    subst from_eq length_eq
    have later := ih (before ++ here ++ ['\r', '\n']) [] (by simp [Nat.add_assoc]) rfl (by simp)
    refine List.forall_mem_cons.mpr ⟨?_, by simpa using later⟩
    rwa [Line.chars_of_append]
  | case3 start length c rest notPair isBreak ih =>
    subst from_eq length_eq
    have later := ih (before ++ here ++ [c]) [] (by simp [Nat.add_assoc]) rfl (by simp)
    refine List.forall_mem_cons.mpr ⟨?_, by simpa using later⟩
    rwa [Line.chars_of_append]
  | case4 start length c rest notPair notBreak ih =>
    have other : '\n' ≠ c := fun same => notBreak (.inr same.symm)
    have later := ih before (here ++ [c]) from_eq (by simp [length_eq]) (by simp [free, other])
    simpa using later

theorem not_mem_of_mem_lineTexts {t line : List Char} (met : line ∈ lineTexts t) : '\n' ∉ line := by
  obtain ⟨l, held, rfl⟩ := List.mem_map.mp met
  exact not_mem_chars_of_mem_linesFrom [] [] rfl rfl (by simp) l held

end OpenDocs.Text
