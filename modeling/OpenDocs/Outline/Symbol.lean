import OpenDocs.Outline.Kind

/-!
# Symbols found in a text

What a reader of one language reports: a name, a kind, the two ends of the symbol's text, and the
symbols inside. Reported symbols are read like those of any other source.
-/

namespace OpenDocs.Outline

structure Symbol where
  name : String
  kind : Kind
  start : Position
  stop : Position
  children : List Symbol

mutual

def Symbol.report : Symbol → Json
  | ⟨name, kind, start, stop, children⟩ =>
    .record [("name", .text name), ("kind", .int kind.code),
      ("range", .record [("start", start.report), ("end", stop.report)]),
      ("children", .list (Symbol.reports children))]

def Symbol.reports : List Symbol → List Json
  | [] => []
  | s :: rest => s.report :: Symbol.reports rest

end

def Symbol.toRaw (symbols : List Symbol) : Raw := (Json.list (Symbol.reports symbols)).toRaw

end OpenDocs.Outline
