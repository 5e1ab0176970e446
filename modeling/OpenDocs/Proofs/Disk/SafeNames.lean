import OpenDocs.Disk.FileName
import OpenDocs.Proofs.Disk.Spelling
import OpenDocs.Proofs.Text.Ends

/-!
# Safe file names

The name for a label has only letters and digits of ASCII, dots, underscores and hyphens, and neither
a dot nor an underscore at either end. So it is one name of a path, leads to no other directory and
hides no file. The labels that are their own names are those that look like this, and no others.
-/

namespace OpenDocs.Disk

/-- A name that is safe in any directory. -/
structure IsSafeName (name : String) : Prop where
  filled : name ≠ ""
  allowed : ∀ c ∈ name.toList, 'A' ≤ c ∧ c ≤ 'Z' ∨ 'a' ≤ c ∧ c ≤ 'z' ∨ '0' ≤ c ∧ c ≤ '9' ∨
    c = '.' ∨ c = '_' ∨ c = '-'
  first : ∀ c ∈ name.toList.head?, c ≠ '.' ∧ c ≠ '_'
  last : ∀ c ∈ name.toList.getLast?, c ≠ '.' ∧ c ≠ '_'

section

variable {c : Char} {name : String}

theorem isSafe_iff : isSafe c = true ↔ 'A' ≤ c ∧ c ≤ 'Z' ∨ 'a' ≤ c ∧ c ≤ 'z' ∨
    '0' ≤ c ∧ c ≤ '9' ∨ c = '.' ∨ c = '_' ∨ c = '-' := by
  simp [isSafe, Char.isAlphanum, Char.isAlpha, Char.isUpper, Char.isLower, Char.isDigit,
    Char.le_def, or_assoc]

theorem isEdge_eq_false_iff : isEdge c = false ↔ c ≠ '.' ∧ c ≠ '_' := by
  simp [isEdge]

theorem trimEdges_eq_trim (cs : List Char) : trimEdges cs = Text.trim isEdge cs := rfl

/-- The characters of a label, those that are not safe replaced. -/
def safeChars (label : String) : List Char :=
  label.toList.map fun c => if isSafe c then c else '_'

theorem isSafe_of_mem_safeChars {label : String} (held : c ∈ safeChars label) :
    isSafe c = true := by
  obtain ⟨own, _, rfl⟩ := List.mem_map.mp held
  split
  · assumption
  · decide

theorem safeName_eq (label : String) : safeName label =
    if Text.trim isEdge (safeChars label) = [] then "untitled"
    else String.ofList (Text.trim isEdge (safeChars label)) := by
  rw [safeName, ← safeChars, trimEdges_eq_trim]
  exact if_congr List.isEmpty_iff rfl rfl

theorem isSafeName_iff : IsSafeName name ↔ name ≠ "" ∧ (∀ c ∈ name.toList, isSafe c = true) ∧
    (∀ c ∈ name.toList.head?, isEdge c = false) ∧ ∀ c ∈ name.toList.getLast?, isEdge c = false := by
  simp only [isSafe_iff, isEdge_eq_false_iff]
  constructor
  · rintro ⟨filled, allowed, first, last⟩
    exact ⟨filled, allowed, first, last⟩
  · rintro ⟨filled, allowed, first, last⟩
    exact ⟨filled, allowed, first, last⟩

/-- Every label has a safe name. -/
theorem isSafeName_safeName (label : String) : IsSafeName (safeName label) := by
  have untitled : ∀ c ∈ "untitled".toList, isSafe c = true := List.all_eq_true.mp rfl
  rw [isSafeName_iff, safeName_eq]
  split
  · exact ⟨by decide, untitled, by simp [isEdge], by simp [isEdge]⟩
  · next filled =>
    rw [String.toList_ofList]
    refine ⟨?_, fun c held => ?_, Text.isEnd_head?_trim isEdge _, Text.isEnd_getLast?_trim isEdge _⟩
    · rwa [ne_eq, ← String.toList_eq_nil_iff, String.toList_ofList]
    · exact isSafe_of_mem_safeChars ((Text.trim_isInfix isEdge (safeChars label)).subset held)

theorem IsSafeName.safeName_eq_self (safe : IsSafeName name) : safeName name = name := by
  have chars : safeChars name = name.toList := by
    rw [safeChars]
    conv_rhs => rw [← List.map_id name.toList]
    apply List.map_congr_left
    intro c held
    rw [if_pos (isSafe_iff.mpr (safe.allowed c held)), id]
  have ends : Text.trim isEdge name.toList = name.toList :=
    Text.trim_eq_self_iff.mpr (isSafeName_iff.mp safe).2.2
  rw [safeName_eq, chars, ends, if_neg (mt String.toList_eq_nil_iff.mp safe.filled),
    String.ofList_toList]

theorem safeName_eq_self_iff : safeName name = name ↔ IsSafeName name := by
  constructor
  · intro same
    exact same ▸ isSafeName_safeName name
  · exact IsSafeName.safeName_eq_self

/-! ### Safe names in paths -/

theorem IsSafeName.not_mem (safe : IsSafeName name)
    (odd : isSafe c = false) : c ∉ name.toList := by
  intro held
  rw [isSafe_iff.mpr (safe.allowed c held)] at odd
  cases odd

/-- A safe name names an entry of a directory, and neither the directory nor the one around it. -/
theorem IsSafeName.isName (safe : IsSafeName name) : Path.isName name = true ∧ name ≠ ".." := by
  have noDot : name.toList.head? ≠ some '.' := fun dot => (safe.first '.' dot).1 rfl
  refine ⟨?_, ?_⟩
  · rw [Path.isName, Bool.and_eq_true, bne_iff_ne, bne_iff_ne]
    refine ⟨safe.filled, ?_⟩
    rintro rfl
    exact noDot rfl
  · rintro rfl
    exact noDot rfl

/-- A safe name is read as a path of one name. -/
theorem IsSafeName.ofString_eq (safe : IsSafeName name) : Path.ofString name = ⟨0, [name]⟩ := by
  have noSlash : '/' ∉ name.toList := safe.not_mem (by decide)
  have unslashed : Path.leadingSlashes name.toList = 0 := by
    refine Path.leadingSlashes_append (k := 0) (Nat.zero_le 2) fun slash => ?_
    exact noSlash (List.mem_of_head? slash)
  rw [Path.ofString, unslashed, Text.pieces, Text.cut_of_not_mem noSlash, List.map_singleton,
    String.ofList_toList, List.filter_cons_of_pos safe.isName.1, List.filter_nil]

end

end OpenDocs.Disk
