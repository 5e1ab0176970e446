import OpenDocs.Headings.Section
import OpenDocs.Proofs.Text.LineTable

/-!
# Sections do not depend on the line breaks

A document is read line by line, and what divides it into lines is determined by the text. So the
same lines have the same sections, whichever break they are written with.
-/

namespace OpenDocs.Headings

open Text

theorem symbols_congr {t u : List Char} (same : lineTexts t = lineTexts u) :
    symbols t = symbols u := by
  simp only [symbols, same]

/-- The table of lines is the only one that divides the text at its breaks. Lines without breaks in
them are found again when they are put together with a break, and have the same sections whichever
it is. -/
theorem line_table_unique (t : List Char) :
    (∀ table, Divides t 0 table ↔ table = lines t) ∧
    ∀ ls : List (List Char), ls ≠ [] → (∀ l ∈ ls, Unbroken l) → ∀ b ∈ lineBreaks,
      lineTexts (b.intercalate ls) = ls ∧
      ∀ c ∈ lineBreaks, symbols (b.intercalate ls) = symbols (c.intercalate ls) := by
  constructor
  · intro table
    exact divides_iff
  · intro ls more free b known
    have found : ∀ c ∈ lineBreaks, lineTexts (c.intercalate ls) = ls :=
      fun c known => lineTexts_intercalate more free known
    refine ⟨found b known, fun c other => ?_⟩
    apply symbols_congr
    rw [found b known, found c other]

/-- A carriage return before a whole break, and a section whose heading is underlined. -/
theorem line_table_unique_with_each_break :
    let title := ['a', 'b']
    let underline := ['=', '=']
    (Unbroken title ∧ Unbroken underline) ∧
    Divides ['a', '\r', '\r', '\n', '\n'] 0 [⟨0, 1, 1⟩, ⟨2, 0, 2⟩, ⟨4, 0, 1⟩, ⟨5, 0, 0⟩] ∧
    lineTexts ['a', 'b', '\r', '\n', '=', '=', '\r', '\n'] = [title, underline, []] ∧
    symbols ['a', 'b', '\r', '\n', '=', '=', '\r', '\n'] =
      symbols ['a', 'b', '\r', '=', '=', '\r'] := by
  intro title underline
  have free : ∀ l ∈ [title, underline, []], Unbroken l := by decide
  obtain ⟨table, joined⟩ := line_table_unique ['a', '\r', '\r', '\n', '\n']
  obtain ⟨found, same⟩ :=
    joined [title, underline, []] (List.cons_ne_nil _ _) free ['\r', '\n'] (by decide)
  exact ⟨by decide, (table _).mpr (by decide), found, same ['\r'] (by decide)⟩

end OpenDocs.Headings
