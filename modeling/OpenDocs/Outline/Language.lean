import OpenDocs.Headings.Section
import OpenDocs.Program.Outline
import OpenDocs.Program.Source

/-!
# Languages that have an outline

A register maps the name of a language, in lower case, to whatever finds its symbols.
-/

namespace OpenDocs.Outline

inductive Language where
  | program
  | markdown
  deriving DecidableEq

namespace Language

def name : Language → String
  | program => "python"
  | markdown => "markdown"

/-- A text that is no program has no symbols. -/
def symbols (l : Language) (t : List Char) : List Symbol :=
  match l with
  | program => ((Program.parse t).map (Program.moduleSymbols (Text.lineTexts t))).getD []
  | markdown => Headings.symbols t

end Language

/-- Entries by language name, in order of first registration. -/
structure Register (Finder : Type) where
  entries : List (String × Finder)

namespace Register

variable {Finder : Type}

def empty : Register Finder := ⟨[]⟩

/-- A later finder takes the place of an earlier one of the same language. -/
def register (r : Register Finder) (language : String) (f : Finder) : Register Finder :=
  let key := Text.toLower language
  if r.entries.any (·.1 == key) then
    ⟨r.entries.map fun e => if e.1 = key then (key, f) else e⟩
  else ⟨r.entries ++ [(key, f)]⟩

/-- No language is named by the empty text. -/
def find? (r : Register Finder) (language : String) : Option Finder :=
  if language.isEmpty then none else r.entries.lookup (Text.toLower language)

def languages (r : Register Finder) : List String :=
  (r.entries.map (·.1)).mergeSort fun a b => decide (a ≤ b)

end Register

def defaultRegister : Register Language :=
  ((Register.empty.register Language.program.name .program).register Language.markdown.name
    .markdown)

end OpenDocs.Outline
