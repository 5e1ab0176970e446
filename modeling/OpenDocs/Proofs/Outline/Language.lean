import OpenDocs.Outline.Language
import OpenDocs.Proofs.Headings.Names
import OpenDocs.Proofs.Program.Names

/-!
# Names in the languages that have an outline

In each of the languages a symbol has a name of one line.
-/

namespace OpenDocs

theorem Headings.oneLine_of_mem_symbols (t : List Char) :
    ∀ s ∈ Outline.Symbol.preorders (symbols t), Text.OneLine s.name := by
  intro s met
  obtain ⟨h, line, here, read, named⟩ := exists_heading_of_mem_symbols met
  rw [named, Text.OneLine, String.toList_ofList]
  intro held
  exact Text.not_mem_of_mem_lineTexts (List.mem_of_getElem? here) (read.title_isInfix.mem held)

theorem Outline.Language.oneLine_of_mem_symbols (l : Language) (t : List Char) :
    ∀ s ∈ Symbol.preorders (l.symbols t), Text.OneLine s.name := by
  cases l with
  | markdown => exact Headings.oneLine_of_mem_symbols t
  | program =>
    unfold symbols
    cases parsed : Program.parse t with
    | none => simp
    | some body => exact Program.oneLine_of_mem_moduleSymbols parsed (Text.lineTexts t)

end OpenDocs
