import OpenDocs.Proofs.Text.Ends
import OpenDocs.Text.Classes

/-!
# Blanks at the ends of a text

What is left of a text without the blanks at its ends has none there, and stays as it is.
-/

namespace OpenDocs.Text

theorem strip_isInfix (cs : List Char) : strip cs <:+: cs := trim_isInfix isBlank cs

theorem strip_eq_nil_iff {cs : List Char} : strip cs = [] ↔ ∀ c ∈ cs, isBlank c = true :=
  trim_eq_nil_iff

theorem trimEnd_append {cs tail : List Char} (solid : ∀ c ∈ cs.getLast?, isBlank c = false)
    (blank : ∀ c ∈ tail, isBlank c = true) : trimEnd (cs ++ tail) = cs := by
  have behind : ∀ c ∈ tail.reverse, isBlank c = true :=
    fun c met => blank c (List.mem_reverse.mp met)
  rw [trimEnd, List.reverse_append, List.dropWhile_append_of_pos behind]
  apply List.rdropWhile_eq_self_iff.mpr
  intro more
  simpa using solid _ (List.getLast?_eq_getLast_of_ne_nil more)

theorem exists_trimEnd_append (cs : List Char) :
    ∃ tail, cs = trimEnd cs ++ tail ∧ ∀ c ∈ tail, isBlank c = true :=
  ⟨cs.rtakeWhile isBlank, List.rdropWhile_append_rtakeWhile.symm,
    fun _ met => List.mem_rtakeWhile_imp met⟩

theorem dropWhile_isBlank_append {gap body : List Char} (blank : ∀ c ∈ gap, isBlank c = true)
    (solid : ∀ c ∈ body.head?, isBlank c = false) : (gap ++ body).dropWhile isBlank = body := by
  rw [List.dropWhile_append_of_pos blank]
  cases body with
  | nil => rfl
  | cons c body => exact List.dropWhile_cons_of_neg (by simp [solid c rfl])

theorem head?_dropWhile_isBlank (cs : List Char) :
    ∀ c ∈ (cs.dropWhile isBlank).head?, isBlank c = false :=
  isEnd_head?_dropWhile isBlank cs

/-- A text has no blanks at its ends just if it is left as it is without them. -/
theorem strip_eq_self_iff {cs : List Char} : strip cs = cs ↔
    (∀ c ∈ cs.head?, isBlank c = false) ∧ ∀ c ∈ cs.getLast?, isBlank c = false :=
  trim_eq_self_iff

theorem strip_strip (cs : List Char) : strip (strip cs) = strip cs := trim_trim isBlank cs

end OpenDocs.Text
