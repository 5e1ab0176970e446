import OpenDocs.Proofs.Number.Decimal
import Mathlib.Data.List.Nodup
import Mathlib.Data.List.Perm.Subperm

/-!
# Numbers for new names

Numbers with noughts in front of their digits can be told apart, so of more numbered names than
there are names in use one is to spare.
-/

namespace OpenDocs

theorem ofDigitChars_noughts (count : Nat) (cs : List Char) :
    Nat.ofDigitChars 10 (List.replicate count '0' ++ cs) 0 = Nat.ofDigitChars 10 cs 0 := by
  induction count with
  | zero => rfl
  | succ count ih =>
    rw [List.replicate_succ, List.cons_append, ← ih]
    rfl

theorem padded_inj {width m n : Nat}
    (same : String.ofList (List.replicate (width - (toString m).length) '0') ++ toString m =
      String.ofList (List.replicate (width - (toString n).length) '0') ++ toString n) : m = n := by
  have read := congrArg (fun s => Nat.ofDigitChars 10 s.toList 0) same
  simpa only [String.toList_append, String.toList_ofList, ofDigitChars_noughts,
    Nat.toString_eq_repr, Nat.toList_repr, Nat.ofDigitChars_ten_toDigits] using read

/-- Of more names than there are in use, one is free. -/
theorem exists_spare {Name : Type} (name : Nat → Name) (apart : ∀ m n, name m = name n → m = n)
    {used : List Name} {count : Nat} (fewer : used.length < count) :
    ∃ n ∈ List.range count, name n ∉ used := by
  by_contra all
  push Not at all
  have distinct : ((List.range count).map name).Nodup :=
    List.Nodup.map (fun m n => apart m n) List.nodup_range
  have held : (List.range count).map name ⊆ used := by
    intro x met
    obtain ⟨n, listed, rfl⟩ := List.mem_map.mp met
    exact all n listed
  have bound := (distinct.subperm held).length_le
  rw [List.length_map, List.length_range] at bound
  omega

end OpenDocs
