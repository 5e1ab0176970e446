import OpenDocs.Proofs.Headings.Coherence
import OpenDocs.Proofs.Headings.Numbered
import OpenDocs.Proofs.Headings.Titles
import OpenDocs.Proofs.Text.LineTable

/-!
# The names of sections

The name of a section stands on one line and has no blanks at its ends. A section is left without a
name by a heading of nothing but number signs and blanks, if these are two or more.
-/

namespace OpenDocs.Headings

open Outline (Symbol)
open Text (Unbroken isBlank lineTexts strip)

/-! ### Headings without a title -/

/-- Number signs with at least two blanks behind them, and nothing else. -/
def Untitled (line : List Char) : Prop :=
  ∃ level gap, SignLine line level gap [] ∧ 2 ≤ gap.length

theorem strip_titleOf_ne_nil {body : List Char} (more : body ≠ [])
    (solid : ∀ c ∈ body.head?, isBlank c = false) : strip (titleOf body) ≠ [] := by
  intro nothing
  have blank := Text.strip_eq_nil_iff.mp nothing
  obtain ⟨named, closing, whole, _⟩ := exists_titleOf_append more
  obtain ⟨c, rest, first⟩ := List.exists_cons_of_ne_nil named
  rw [first] at whole blank
  have here := solid c (by rw [whole]; rfl)
  rw [blank c List.mem_cons_self] at here
  cases here

theorem untitled_iff {line : List Char} : Untitled line ↔ ∃ level, numbered? line = some (level, []) := by
  constructor
  · rintro ⟨level, gap, parts, long⟩
    exact ⟨level, numbered?_eq_some_iff.mpr ⟨gap, [], parts, .inl ⟨rfl, long, rfl⟩⟩⟩
  · rintro ⟨level, found⟩
    obtain ⟨gap, body, parts, ⟨rfl, long, _⟩ | ⟨more, nothing⟩⟩ := numbered?_eq_some_iff.mp found
    · exact ⟨level, gap, parts, long⟩
    · exact absurd nothing.symm (strip_titleOf_ne_nil more parts.solid)

namespace Heading.IsReadOff

variable {h : Heading} {line : List Char}

theorem title_eq_nil_iff (read : h.IsReadOff line) : h.title = [] ↔ Untitled line := by
  rw [untitled_iff]
  cases read with
  | numbered found =>
    constructor
    · intro nothing
      rw [nothing] at found
      exact ⟨h.level, found⟩
    · rintro ⟨level, nothing⟩
      exact congrArg Prod.snd (Option.some.inj (found.symm.trans nothing))
  | underlined unnumbered _ named =>
    constructor
    · intro nothing
      exact absurd nothing named
    · rintro ⟨level, found⟩
      rw [unnumbered] at found
      cases found

theorem strip_title (read : h.IsReadOff line) : strip h.title = h.title := by
  cases read with
  | numbered found =>
    obtain ⟨gap, body, _, ⟨_, _, nothing⟩ | ⟨_, stripped⟩⟩ := numbered?_eq_some_iff.mp found
    · rw [nothing]
      rfl
    · rw [stripped, Text.strip_strip]
  | underlined _ whole _ => rw [whole, Text.strip_strip]

end Heading.IsReadOff

/-! ### The names that are shown -/

variable {t : List Char} {s : Symbol}

theorem exists_heading_of_mem_symbols (met : s ∈ Symbol.preorders (symbols t)) :
    ∃ (h : Heading) (line : List Char), (lineTexts t)[s.start.line]? = some line ∧
      h.IsReadOff line ∧ s.name = String.ofList h.title := by
  rw [symbols, preorder_symbolsOf] at met
  obtain ⟨found, inner, rfl⟩ := List.mem_map.mp met
  have heading : found.heading ∈ headings (lineTexts t) := by
    rw [← (coherent_sections t).listed]
    exact List.mem_map_of_mem inner
  obtain ⟨line, here, read⟩ := exists_isReadOff_of_mem_headings _ heading
  cases found
  exact ⟨_, line, here, read, rfl⟩

theorem unbroken_of_mem_lineTexts {line : List Char} (met : line ∈ lineTexts t) : Unbroken line := by
  obtain ⟨l, held, rfl⟩ := List.mem_map.mp met
  exact (Text.divides_lines t).unbroken l held

/-- The name of every section, at any depth, has no line break in it and no blanks at its ends, and
it is empty just if the section begins with an untitled heading. -/
theorem name_of_mem_symbols (t : List Char) : ∀ s ∈ Symbol.preorders (symbols t),
    Unbroken s.name.toList ∧ strip s.name.toList = s.name.toList ∧
      ∃ line, (lineTexts t)[s.start.line]? = some line ∧ (s.name = "" ↔ Untitled line) := by
  intro s met
  obtain ⟨h, line, here, read, named⟩ := exists_heading_of_mem_symbols met
  have inside := read.title_isInfix
  obtain ⟨noReturn, noFeed⟩ := unbroken_of_mem_lineTexts (List.mem_of_getElem? here)
  rw [named, String.toList_ofList]
  refine ⟨⟨fun held => noReturn (inside.mem held), fun held => noFeed (inside.mem held)⟩,
    read.strip_title, line, here, ?_⟩
  rw [← read.title_eq_nil_iff, ← String.toList_eq_nil_iff, String.toList_ofList]

/-- A section without a name, and one with a name inside it. -/
theorem name_of_mem_symbols_below_untitled : ∃ outer inner : Symbol,
    symbols "#  \r\n## a #\u00a0".toList = [outer] ∧ outer.children = [inner] ∧
    outer.name = "" ∧ inner.name = "a" ∧
    (Unbroken outer.name.toList ∧ strip outer.name.toList = outer.name.toList ∧
      ∃ line, (lineTexts "#  \r\n## a #\u00a0".toList)[outer.start.line]? = some line ∧
        (outer.name = "" ↔ Untitled line)) ∧
    Unbroken inner.name.toList ∧ strip inner.name.toList = inner.name.toList ∧
      ∃ line, (lineTexts "#  \r\n## a #\u00a0".toList)[inner.start.line]? = some line ∧
        (inner.name = "" ↔ Untitled line) := by
  have shown : symbols "#  \r\n## a #\u00a0".toList =
      [⟨"", .string, ⟨0, 0⟩, ⟨1, 7⟩, [⟨"a", .string, ⟨1, 0⟩, ⟨1, 7⟩, []⟩]⟩] := by cbv
  refine ⟨_, _, shown, rfl, rfl, rfl, name_of_mem_symbols _ _ ?_, name_of_mem_symbols _ _ ?_⟩
  · rw [shown]
    exact List.mem_cons_self
  · rw [shown]
    exact List.mem_cons_of_mem _ List.mem_cons_self

/-- A number sign and two blanks are a section without a name. -/
theorem symbols_of_untitled :
    (Symbol.preorders (symbols "#  ".toList)).map (·.name) = [""] := by
  decide

end OpenDocs.Headings
