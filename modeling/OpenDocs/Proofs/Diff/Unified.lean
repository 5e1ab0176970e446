import OpenDocs.Proofs.Diff.Lines

/-!
# What a unified diff says

The hunks of two texts hold all that is different, and enough to get the second text from the first.
There are none only if the texts are the same.
-/

namespace OpenDocs.Diff

section
variable {Item : Type} {old new : List Item}

/-- Outside of the hunks both sequences are the same, from two places on. -/
def AgreeOutside (old new : List Item) : Nat → Nat → List Hunk → Prop
  | i, j, [] => old.drop i = new.drop j
  | i, j, h :: rest =>
    i ≤ h.oldStart ∧ j ≤ h.newStart ∧ span old i h.oldStart = span new j h.newStart ∧
      AgreeOutside old new h.oldStop h.newStop rest

/-- The items from `done` on, with others in place of those between the bounds given. -/
def replaceFrom (items : List Item) (done : Nat) : List (Nat × Nat × List Item) → List Item
  | [] => items.drop done
  | (start, stop, others) :: rest => span items done start ++ others ++ replaceFrom items stop rest

namespace Hunked

variable {i j oldStop newStop limit : Nat} {hs : List Hunk}

theorem le (hunked : Hunked old new limit i j oldStop newStop hs) : i ≤ oldStop ∧ j ≤ newStop := by
  induction hunked with
  | nil old_le new_le => exact ⟨old_le, new_le⟩
  | cons old_le new_le _ good _ _ ih =>
    have leads := good.leads.le
    omega

theorem good (hunked : Hunked old new limit i j oldStop newStop hs) :
    ∀ h ∈ hs, h.Good old new limit := by
  induction hunked with
  | nil => simp
  | cons _ _ _ good _ _ ih => exact List.forall_mem_cons.mpr ⟨good, ih⟩

theorem start_le (hunked : Hunked old new limit i j oldStop newStop hs) :
    ∀ h ∈ hs, i ≤ h.oldStart ∧ j ≤ h.newStart := by
  induction hunked with
  | nil => simp
  | cons old_le new_le _ good _ _ ih =>
    have leads := good.leads.le
    refine List.forall_mem_cons.mpr ⟨⟨old_le, new_le⟩, fun k met => ?_⟩
    have later := ih k met
    omega

theorem pairwise (hunked : Hunked old new limit i j oldStop newStop hs) :
    hs.Pairwise fun h k => h.oldStop < k.oldStart ∧ h.newStop < k.newStart := by
  induction hunked with
  | nil => exact .nil
  | @cons _ _ _ _ h rest _ _ _ _ apart later ih =>
    refine List.pairwise_cons.mpr ⟨?_, ih⟩
    cases later with
    | nil => simp
    | @cons _ _ _ _ first rest _ _ _ good _ later =>
      have next := apart first rfl
      have leads := good.leads.le
      refine List.forall_mem_cons.mpr ⟨next, fun k met => ?_⟩
      have beyond := later.start_le k met
      omega

theorem agreeOutside (hunked : Hunked old new limit i j old.length new.length hs) :
    AgreeOutside old new i j hs := by
  generalize old_end : old.length = oldStop at hunked
  generalize new_end : new.length = newStop at hunked
  induction hunked with
  | nil _ _ same =>
    rwa [← old_end, ← new_end, span_length, span_length] at same
  | cons old_le new_le same _ _ _ ih => exact ⟨old_le, new_le, same, ih old_end new_end⟩

theorem replaceFrom {others : Hunk → List Item}
    (hunked : Hunked old new limit i j old.length new.length hs)
    (given : ∀ h ∈ hs, others h = span new h.newStart h.newStop) :
    replaceFrom old i (hs.map fun h => (h.oldStart, h.oldStop, others h)) = new.drop j := by
  generalize old_end : old.length = oldStop at hunked
  generalize new_end : new.length = newStop at hunked
  induction hunked with
  | nil _ _ same =>
    rwa [← old_end, ← new_end, span_length, span_length] at same
  | @cons i j oldStop newStop h rest _ new_le same good _ later ih =>
    have after := ih (fun k met => given k (List.mem_cons_of_mem _ met)) old_end new_end
    have stop := later.le.2
    rw [List.map_cons, Diff.replaceFrom, after, given h List.mem_cons_self, same,
      span_append new_le good.leads.le.2, ← span_length, new_end,
      span_append (Nat.le_trans new_le good.leads.le.2) stop, ← new_end, span_length]

end Hunked

end

/-- What a hunk says of the lines of both texts, and what its header says of it. -/
structure Hunk.Shows (old new : List (List Char)) (limit : Nat) (h : Hunk) : Prop where
  header : readHeader? h.header = some ((h.oldStart, h.oldStop), (h.newStart, h.newStop))
  within : h.oldStart ≤ h.oldStop ∧ h.oldStop ≤ old.length ∧
    h.newStart ≤ h.newStop ∧ h.newStop ≤ new.length
  marks : ∀ line ∈ h.body old new, ∃ mark text, line = mark :: text ∧ mark ∈ [' ', '-', '+']
  old_lines : unmarked [' ', '-'] (h.body old new) = span old h.oldStart h.oldStop
  new_lines : unmarked [' ', '+'] (h.body old new) = span new h.newStart h.newStop
  changes : ∃ line ∈ h.body old new, isKept line = false
  leading : ((h.body old new).takeWhile isKept).length ≤ limit
  trailing : ((h.body old new).reverse.takeWhile isKept).length ≤ limit

theorem Leads.stop_le {Item : Type} {old new : List Item} {i j oldStop newStop : Nat}
    {ss : List Step}
    (leads : Leads old new i j oldStop newStop ss) (some : ss ≠ []) :
    oldStop ≤ old.length ∧ newStop ≤ new.length := by
  induction leads with
  | nil => exact absurd rfl some
  | @cons _ _ _ _ s rest _ _ valid rest_leads ih =>
    cases rest with
    | nil =>
      cases rest_leads
      exact ⟨valid.old_length, valid.new_length⟩
    | cons t more => exact ih (List.cons_ne_nil t more)

theorem Hunk.Good.shows {old new : List (List Char)} {limit : Nat} {h : Hunk}
    (good : h.Good old new limit) : h.Shows old new limit := by
  have le := good.leads.le
  obtain ⟨s, met, _⟩ := good.changes
  have stop := good.leads.stop_le (List.ne_nil_of_mem met)
  refine {
    header := h.readHeader?_header le.1 le.2
    within := ⟨le.1, stop.1, le.2, stop.2⟩
    marks := fun line held => ?_
    old_lines := good.leads.old_lines
    new_lines := good.leads.new_lines
    changes := good.changed_line
    leading := good.leading_le
    trailing := good.trailing_le }
  obtain ⟨s, _, held⟩ := List.mem_flatMap.mp held
  exact Step.mark_of_mem_lines line held

/-- The hunks tell the new lines from the old ones: they are in order, all the lines outside of them
are kept, and with the new lines of each in place of its old ones the old lines become the new ones.
-/
structure Describes (old new : List (List Char)) (limit : Nat) (hs : List Hunk) : Prop where
  increasing : hs.Pairwise fun h k => h.oldStop < k.oldStart ∧ h.newStop < k.newStart
  shows : ∀ h ∈ hs, h.Shows old new limit
  outside : AgreeOutside old new 0 0 hs
  replaced : replaceFrom old 0
    (hs.map fun h => (h.oldStart, h.oldStop, unmarked [' ', '+'] (h.body old new))) = new

theorem hunks_describe (limit : Nat) (old new : List (List Char)) :
    Describes old new limit (hunks limit old new) := by
  have hunked := hunks_hunked limit old new
  exact {
    increasing := hunked.pairwise
    shows := fun h met => (hunked.good h met).shows
    outside := hunked.agreeOutside
    replaced := hunked.replaceFrom fun h met => (hunked.good h met).leads.new_lines }

/-- There is a hunk unless the sequences are the same. -/
theorem hunks_eq_nil_iff {Item : Type} [DecidableEq Item] (limit : Nat) {old new : List Item} :
    hunks limit old new = [] ↔ old = new := by
  constructor
  · intro none
    have outside := (hunks_hunked limit old new).agreeOutside
    rwa [none] at outside
  · rintro rfl
    exact hunks_self limit old

theorem cutLines_inj {t u : List Char} : Text.cutLines t = Text.cutLines u ↔ t = u := by
  constructor
  · intro same
    rw [← Text.flatten_cutLines t, same, Text.flatten_cutLines]
  · exact congrArg _

/-- Two lines that name the texts, and each hunk with its header and its lines. -/
def hunksText (label : String) (old new : List (List Char)) : List Hunk → String
  | [] => ""
  | hs => s!"--- a/{label}\n+++ b/{label}\n" ++
    String.join (hs.map fun h => h.header ++ String.ofList (h.body old new).flatten)

theorem hunksText_eq_empty_iff {label : String} {old new : List (List Char)} {hs : List Hunk} :
    hunksText label old new hs = "" ↔ hs = [] := by
  cases hs with
  | nil => simp [hunksText]
  | cons h rest =>
    refine iff_of_false (fun empty => ?_) (List.cons_ne_nil h rest)
    have chars := congrArg String.toList empty
    rw [hunksText, String.toList_append] at chars
    · exact absurd (List.append_eq_nil_iff.mp chars).1 (by simp [toString])
    · exact List.cons_ne_nil h rest

/-- A unified diff is made of hunks that tell the new lines from the old ones, and it is empty if
and only if the texts are equal. -/
theorem unified_outcome (old new : List Char) (label : String) (context : Int) :
    Describes (Text.cutLines old) (Text.cutLines new) context.toNat
      (hunks context.toNat (Text.cutLines old) (Text.cutLines new)) ∧
    unified old new label context = hunksText label (Text.cutLines old) (Text.cutLines new)
      (hunks context.toNat (Text.cutLines old) (Text.cutLines new)) ∧
    (unified old new label context = "" ↔ old = new) := by
  have text : unified old new label context = hunksText label (Text.cutLines old)
      (Text.cutLines new) (hunks context.toNat (Text.cutLines old) (Text.cutLines new)) := rfl
  refine ⟨hunks_describe _ _ _, text, ?_⟩
  rw [text, hunksText_eq_empty_iff, hunks_eq_nil_iff, cutLines_inj]

end OpenDocs.Diff
