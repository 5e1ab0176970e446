/-!
# Cutting a text at its line boundaries

More code points end a line here than in the line table: tabs of the vertical kind, separators and
the controls that stand for them. Each line keeps its boundary.
-/

namespace OpenDocs.Text

def boundaries : List Char :=
  ['\n', '\r', '\x0b', '\x0c', '\x1c', '\x1d', '\x1e', '\u0085', '\u2028', '\u2029']

/-- The lines of the rest of a text; `open_` is what the current line has so far, reversed. -/
def cutFrom (open_ : List Char) : List Char → List (List Char)
  | [] => if open_.isEmpty then [] else [open_.reverse]
  | '\r' :: '\n' :: rest => ('\n' :: '\r' :: open_).reverse :: cutFrom [] rest
  | c :: rest =>
    if c ∈ boundaries then (c :: open_).reverse :: cutFrom [] rest else cutFrom (c :: open_) rest

def cutLines (t : List Char) : List (List Char) := cutFrom [] t

theorem flatten_cutFrom (open_ t : List Char) :
    (cutFrom open_ t).flatten = open_.reverse ++ t := by
  fun_induction cutFrom open_ t <;> simp_all

theorem flatten_cutLines (t : List Char) : (cutLines t).flatten = t := by
  simp [cutLines, flatten_cutFrom]

end OpenDocs.Text
