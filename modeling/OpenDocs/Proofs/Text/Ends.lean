import Mathlib.Data.List.DropRight
import Mathlib.Data.List.TakeWhile

/-!
# Characters taken off both ends

What is left of a text without the characters of a kind at its ends has none of them there, and stays
as it is.
-/

namespace OpenDocs.Text

/-- A text without the characters of a kind at its ends. -/
def trim (isEnd : Char → Bool) (cs : List Char) : List Char :=
  (cs.dropWhile isEnd).rdropWhile isEnd

variable {isEnd : Char → Bool} {cs : List Char}

theorem trim_isInfix (isEnd : Char → Bool) (cs : List Char) : trim isEnd cs <:+: cs :=
  (List.rdropWhile_prefix isEnd _).isInfix.trans (List.dropWhile_suffix isEnd).isInfix

theorem trim_eq_nil_iff : trim isEnd cs = [] ↔ ∀ c ∈ cs, isEnd c = true := by
  rw [trim, List.rdropWhile_eq_nil_iff]
  constructor
  · intro behind c met
    rw [← List.takeWhile_append_dropWhile (p := isEnd) (l := cs), List.mem_append] at met
    rcases met with first | later
    · exact List.mem_takeWhile_imp first
    · exact behind c later
  · intro ends c met
    exact ends c ((List.dropWhile_suffix isEnd).subset met)

theorem isEnd_head?_dropWhile (isEnd : Char → Bool) (cs : List Char) :
    ∀ c ∈ (cs.dropWhile isEnd).head?, isEnd c = false := by
  intro c first
  have other := List.head?_dropWhile_not isEnd cs
  rw [Option.mem_def.mp first] at other
  simpa using other

theorem isEnd_getLast?_rdropWhile (isEnd : Char → Bool) (cs : List Char) :
    ∀ c ∈ (cs.rdropWhile isEnd).getLast?, isEnd c = false := by
  intro c last
  obtain ⟨more, rfl⟩ := List.mem_getLast?_eq_getLast last
  simpa using List.rdropWhile_last_not isEnd cs more

theorem isEnd_head?_trim (isEnd : Char → Bool) (cs : List Char) :
    ∀ c ∈ (trim isEnd cs).head?, isEnd c = false := by
  intro c first
  obtain ⟨rest, whole⟩ := List.rdropWhile_prefix isEnd (cs.dropWhile isEnd)
  apply isEnd_head?_dropWhile isEnd cs c
  rw [← whole]
  exact List.mem_head?_append_of_mem_head? first

theorem isEnd_getLast?_trim (isEnd : Char → Bool) (cs : List Char) :
    ∀ c ∈ (trim isEnd cs).getLast?, isEnd c = false :=
  isEnd_getLast?_rdropWhile isEnd _

/-- A text has none of the characters at its ends just if it is left as it is without them. -/
theorem trim_eq_self_iff : trim isEnd cs = cs ↔
    (∀ c ∈ cs.head?, isEnd c = false) ∧ ∀ c ∈ cs.getLast?, isEnd c = false := by
  constructor
  · intro same
    exact same ▸ ⟨isEnd_head?_trim isEnd cs, isEnd_getLast?_trim isEnd cs⟩
  · rintro ⟨first, last⟩
    have front : cs.dropWhile isEnd = cs := by
      cases cs with
      | nil => rfl
      | cons c cs => exact List.dropWhile_cons_of_neg (by simp [first c rfl])
    rw [trim, front, List.rdropWhile_eq_self_iff]
    intro more
    simpa using last _ (List.getLast?_eq_getLast_of_ne_nil more)

theorem trim_trim (isEnd : Char → Bool) (cs : List Char) :
    trim isEnd (trim isEnd cs) = trim isEnd cs :=
  trim_eq_self_iff.mpr ⟨isEnd_head?_trim isEnd cs, isEnd_getLast?_trim isEnd cs⟩

end OpenDocs.Text
