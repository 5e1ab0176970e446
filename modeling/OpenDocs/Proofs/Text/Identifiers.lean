import OpenDocs.Proofs.Text.OneLine
import OpenDocs.Text.Compatibility
import Mathlib

/-!
# Forms of identifiers

What code points are taken apart into or composed to is not below the blank if they are not. So the
form of an identifier has no line feed.
-/

namespace OpenDocs.Text

section
variable {Key Value : Type} [BEq Key] [Hashable Key] [LawfulBEq Key] [LawfulHashable Key]
variable {entries : List (Key × Value)} {key : Key} {value : Value}

theorem mem_of_insertMany {map : Std.HashMap Key Value}
    (found : (map.insertMany entries)[key]? = some value) :
    map[key]? = some value ∨ (key, value) ∈ entries := by
  induction entries generalizing map with
  | nil => exact .inl found
  | cons entry rest ih =>
    rw [Std.HashMap.insertMany_cons] at found
    obtain held | met := ih found
    · rw [Std.HashMap.getElem?_insert] at held
      split at held
      · next same =>
        obtain rfl := eq_of_beq same
        obtain rfl := Option.some.inj held
        exact .inr List.mem_cons_self
      · exact .inl held
    · exact .inr (List.mem_cons_of_mem _ met)

/-- A map that is made of a list has the entries of the list only. -/
theorem mem_of_ofList (found : (Std.HashMap.ofList entries)[key]? = some value) :
    (key, value) ∈ entries := by
  rw [Std.HashMap.ofList_eq_insertMany_empty] at found
  obtain none | met := mem_of_insertMany found
  · rw [Std.HashMap.getElem?_empty] at none
    cases none
  · exact met

end

theorem le_of_mem_keyed {base : Nat} {rows : List String} :
    ∀ entry ∈ keyed base rows, base ≤ entry.1 ∧ ∀ n ∈ entry.2, base ≤ n := by
  let above : Nat × List (Nat × List Nat) → Prop := fun state =>
    base ≤ state.1 ∧ ∀ entry ∈ state.2, base ≤ entry.1 ∧ ∀ n ∈ entry.2, base ≤ n
  refine (List.foldlRecOn (motive := above) (wordsOf rows) _ ⟨Nat.le_refl base, by simp⟩ ?_).2
  rintro ⟨last, done⟩ ⟨low, kept⟩ word _
  have key := Nat.le_add_right_of_le (k := hexNat (word.takeWhile (· != '='))) low
  refine ⟨key, List.forall_mem_cons.mpr ⟨⟨key, fun n met => ?_⟩, kept⟩⟩
  obtain ⟨number, _, rfl⟩ := List.mem_map.mp met
  exact Nat.le_add_right _ _

theorem le_of_mem_parts {n : Nat} (clear : 0x20 ≤ n) : ∀ m ∈ parts n, 0x20 ≤ m := by
  intro m met
  unfold parts at met
  split at met
  · simp only [syllableParts, List.mem_append, List.mem_cons, List.not_mem_nil, or_false] at met
    obtain (lead | vowel) | met := met
    · omega
    · omega
    · split at met
      · cases met
      · have tail := List.mem_singleton.mp met
        omega
  · cases found : partsTable[n]? with
    | none =>
      rw [found, Option.getD_none, List.mem_singleton] at met
      rwa [met]
    | some numbers =>
      rw [found, Option.getD_some] at met
      exact (le_of_mem_keyed _ (mem_of_ofList found)).2 m met

theorem le_of_compose? {a b c : Nat} (composed : compose? a b = some c) : 0x20 ≤ c := by
  unfold compose? at composed
  split at composed
  · obtain rfl := Option.some.inj composed
    omega
  · split at composed
    · obtain rfl := Option.some.inj composed
      omega
    · obtain ⟨⟨key, pair⟩, held, same⟩ := List.mem_map.mp (mem_of_ofList composed)
      cases same
      exact (le_of_mem_keyed _ held).1

theorem mem_insertMark {n m : Nat} {done : List Nat} :
    m ∈ insertMark n done ↔ m = n ∨ m ∈ done := by
  induction done with
  | nil => exact List.mem_cons
  | cons first rest ih =>
    unfold insertMark
    split
    · rw [List.mem_cons, ih, List.mem_cons]
      exact or_left_comm
    · exact List.mem_cons

theorem le_of_mem_ordered {numbers : List Nat} (clear : ∀ n ∈ numbers, 0x20 ≤ n) :
    ∀ n ∈ (numbers.foldl (fun done n => insertMark n done) []).reverse, 0x20 ≤ n := by
  simp only [List.mem_reverse]
  refine List.foldlRecOn (motive := fun done => ∀ n ∈ done, 0x20 ≤ n) numbers _ (by simp) ?_
  intro done kept number held n met
  obtain rfl | met := mem_insertMark.mp met
  · exact clear n held
  · exact kept n met

theorem le_of_mem_composeFrom {starter blocked : Nat} {kept rest : List Nat}
    (first : 0x20 ≤ starter) (marks : ∀ n ∈ kept, 0x20 ≤ n) (following : ∀ n ∈ rest, 0x20 ≤ n) :
    ∀ n ∈ composeFrom starter kept blocked rest, 0x20 ≤ n := by
  induction rest generalizing starter kept blocked with
  | nil =>
    simp only [composeFrom, List.mem_cons, List.mem_reverse, forall_eq_or_imp]
    exact ⟨first, marks⟩
  | cons n rest ih =>
    obtain ⟨next, following⟩ := List.forall_mem_cons.mp following
    simp only [composeFrom]
    split
    · next c composed =>
      split at composed
      · exact ih (le_of_compose? composed) marks following
      · cases composed
    · split
      · simp only [List.mem_cons, List.mem_append, List.mem_reverse]
        rintro m (rfl | met | met)
        · exact first
        · exact marks m met
        · exact ih next (by simp) following m met
      · exact ih first (List.forall_mem_cons.mpr ⟨next, marks⟩) following

theorem le_of_mem_composeAll {numbers : List Nat} (clear : ∀ n ∈ numbers, 0x20 ≤ n) :
    ∀ n ∈ composeAll numbers, 0x20 ≤ n := by
  induction numbers with
  | nil => simp [composeAll]
  | cons n rest ih =>
    obtain ⟨first, following⟩ := List.forall_mem_cons.mp clear
    unfold composeAll
    split
    · exact le_of_mem_composeFrom first (by simp) following
    · exact List.forall_mem_cons.mpr ⟨first, ih following⟩

theorem ofNat_ne_lineFeed {n : Nat} (clear : 0x20 ≤ n) : Char.ofNat n ≠ '\n' := by
  intro same
  have number : (Char.ofNat n).toNat = 10 := congrArg Char.toNat same
  unfold Char.ofNat at number
  split at number
  · have low : n = 10 := number
    omega
  · cases number

/-- An identifier without controls has a form without line feeds. -/
theorem oneLine_identifierForm {s : String} (clear : ∀ c ∈ s.toList, 0x20 ≤ c.toNat) :
    OneLine (identifierForm s) := by
  unfold OneLine identifierForm
  split
  · intro met
    exact absurd (clear _ met) (by decide)
  · rw [String.toList_ofList, List.mem_map]
    rintro ⟨n, met, same⟩
    refine ofNat_ne_lineFeed (le_of_mem_composeAll (le_of_mem_ordered ?_) n met) same
    intro m part
    obtain ⟨c, held, inner⟩ := List.mem_flatMap.mp part
    exact le_of_mem_parts (clear c held) m inner

end OpenDocs.Text
