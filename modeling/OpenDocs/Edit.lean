import OpenDocs.Raw
import OpenDocs.Text.Lines

/-!
# Edits

An edit replaces the text of a range. It is refused when an end of the range is not in the text.
-/

namespace OpenDocs

structure Edit where
  range : Range
  replacement : List Char
  deriving DecidableEq

namespace Edit

inductive Flaw where
  | replacementNotText
  | range (flaw : RangeFlaw)
  deriving DecidableEq

def ofRaw (range replacement : Raw) : Except Flaw Edit :=
  match replacement with
  | .text s => (range.toRange.map fun r => ⟨r, s.toList⟩).mapError .range
  | _ => .error .replacementNotText

def apply (t : List Char) (e : Edit) : Except RangeFlaw (List Char) := do
  let table := Text.lines t
  let start ← Text.resolve table e.range.start
  let stop ← Text.resolve table e.range.stop
  if stop < start then throw (.offsetsInverted start stop e.range.start)
  if t.length < stop then throw (.stopOutside stop t.length e.range.stop)
  pure (t.take start ++ e.replacement ++ t.drop stop)

end Edit

end OpenDocs
