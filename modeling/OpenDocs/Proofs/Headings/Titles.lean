import OpenDocs.Proofs.Headings.Detected
import OpenDocs.Proofs.Text.Blanks

/-!
# The titles of headings

A title is what its heading's line says behind the signs and between the blanks.
-/

namespace OpenDocs.Headings

theorem titleOf_isPrefix (cs : List Char) : titleOf cs <+: cs := by
  induction cs with
  | nil => exact List.prefix_rfl
  | cons c rest ih =>
    rw [titleOf]
    split
    · exact ⟨rest, rfl⟩
    · exact List.cons_prefix_cons.mpr ⟨rfl, ih⟩

theorem title_of_numbered {line title : List Char} {level : Nat}
    (found : numbered? line = some (level, title)) : title <:+: line := by
  unfold numbered? runOf at found
  simp only at found
  split_ifs at found
  · cases found
    exact ⟨[], line, rfl⟩
  · cases found
    refine (Text.strip_isInfix _).trans ((titleOf_isPrefix _).isInfix.trans ?_)
    refine (List.dropWhile_suffix _).isInfix.trans ((List.dropWhile_suffix _).isInfix.trans ?_)
    exact (List.drop_suffix _ line).isInfix

/-- The heading is what a line says: its title is behind number signs, or it is all of a line that has
none and is not blank. -/
inductive Heading.IsReadOff (h : Heading) (line : List Char) : Prop
  | numbered : numbered? line = some (h.level, h.title) → h.IsReadOff line
  | underlined : numbered? line = none → h.title = Text.strip line → h.title ≠ [] →
      h.IsReadOff line

theorem Heading.IsReadOff.title_isInfix {h : Heading} {line : List Char} (read : h.IsReadOff line) :
    h.title <:+: line := by
  cases read with
  | numbered found => exact title_of_numbered found
  | underlined _ whole _ =>
    rw [whole]
    exact Text.strip_isInfix line

/-- The heading is read off the line it stands on, among these, which begin with line `index`. -/
def Heading.StandsIn (index : Nat) (lines : List (List Char)) (h : Heading) : Prop :=
  ∃ k line, lines[k]? = some line ∧ h.line = index + k ∧ h.IsReadOff line

theorem Heading.StandsIn.below {index : Nat} {line : List Char} {lines : List (List Char)}
    {h : Heading} (stands : h.StandsIn (index + 1) lines) : h.StandsIn index (line :: lines) := by
  obtain ⟨k, found, here, place, read⟩ := stands
  exact ⟨k + 1, found, here, by omega, read⟩

theorem standsIn_of_mem_scan {fence : Option Fence} {index : Nat} {lines : List (List Char)} :
    ∀ h ∈ scan fence index lines, h.StandsIn index lines := by
  fun_induction scan fence index lines with
  | case1 | case5 => simp
  | case2 _ _ _ _ ih | case3 _ _ _ _ _ ih | case7 _ _ _ _ _ _ _ _ ih =>
    exact fun h met => (ih h met).below
  | case4 index line rest _ level title found ih =>
    refine List.forall_mem_cons.mpr ⟨⟨0, line, rfl, rfl, .numbered found⟩, ?_⟩
    exact fun h met => (ih h met).below
  | case6 index line _ unnumbered below rest text level found ih =>
    have some : text ≠ [] := by
      intro nothing
      simp [nothing] at found
    refine List.forall_mem_cons.mpr ⟨⟨0, line, rfl, rfl, .underlined unnumbered rfl some⟩, ?_⟩
    exact fun h met => (ih h met).below.below

theorem exists_isReadOff_of_mem_headings {lines : List (List Char)} :
    ∀ h ∈ headings lines, ∃ line, lines[h.line]? = some line ∧ h.IsReadOff line := by
  intro h met
  obtain ⟨k, line, here, place, read⟩ := standsIn_of_mem_scan h met
  rw [Nat.zero_add] at place
  exact ⟨line, place ▸ here, read⟩

end OpenDocs.Headings
