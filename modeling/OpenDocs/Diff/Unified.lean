import OpenDocs.Diff.Hunk
import OpenDocs.Text.Boundaries

/-!
# Unified diffs

Two lines name the texts, and each hunk is a line with its bounds and then its lines, marked as
kept, removed or added. A line is written with its own boundary and with no other.
-/

namespace OpenDocs.Diff

/-- Lines are counted from 1; an empty span is named by the line before it, and a count of one is
left out. -/
def spanText (start stop : Nat) : String :=
  let length := stop - start
  if length = 1 then toString (start + 1)
  else s!"{if length = 0 then start else start + 1},{length}"

def Hunk.header (h : Hunk) : String :=
  s!"@@ -{spanText h.oldStart h.oldStop} +{spanText h.newStart h.newStop} @@\n"

def marked (mark : Char) (lines : List (List Char)) : List (List Char) := lines.map (mark :: ·)

def Step.lines (old new : List (List Char)) (s : Step) : List (List Char) :=
  let oldLines := (old.take s.oldStop).drop s.oldStart
  let newLines := (new.take s.newStop).drop s.newStart
  if s.kept then marked ' ' oldLines else marked '-' oldLines ++ marked '+' newLines

def Hunk.text (old new : List (List Char)) (h : Hunk) : String :=
  h.header ++ String.ofList (h.flatMap (Step.lines old new)).flatten

/-- The diff from one text to another, empty if they are equal; less context than none is none. -/
def unified (old new : List Char) (label : String) (context : Int) : String :=
  let oldLines := Text.cutLines old
  let newLines := Text.cutLines new
  match hunks context.toNat oldLines newLines with
  | [] => ""
  | hs => s!"--- a/{label}\n+++ b/{label}\n" ++ String.join (hs.map (Hunk.text oldLines newLines))

/-- How much longer or shorter the new text is. -/
def summary (old new : List Char) : String :=
  let change : Int := new.length - old.length
  if change = 0 then "edit: 0 chars"
  else if 0 < change then s!"edit: +{change} chars"
  else s!"edit: {change} chars"

end OpenDocs.Diff
