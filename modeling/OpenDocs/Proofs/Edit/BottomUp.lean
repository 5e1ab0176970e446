import OpenDocs.Proofs.Edit.Locality
import Mathlib.Data.List.Chain
import Mathlib.Data.List.Forall2

/-!
# Several edits from the last to the first

Edits of spans that lie apart can be applied one after the other from the end of the text, each with
the range it has in the text as given: an edit changes nothing before its start, so the ranges of the
edits before it still resolve to the same offsets.
-/

namespace OpenDocs

namespace Text

/-- A span of a text and what is to stand there. -/
structure Filling where
  start : Nat
  stop : Nat
  text : List Char

/-- The text from `a` on with all spans filled at once; all offsets are those of the given text. -/
def fill (t : List Char) (a : Nat) : List Filling → List Char
  | [] => t.drop a
  | f :: fs => slice t a f.start ++ f.text ++ fill t f.stop fs

variable {t : List Char}

theorem take_append_slice {a b : Nat} (ordered : a ≤ b) : t.take a ++ slice t a b = t.take b := by
  have front : (t.take b).take a = t.take a := by rw [List.take_take, Nat.min_eq_left ordered]
  rw [slice, ← front, List.take_append_drop]

theorem take_take_append_fill {a : Nat} {fillings : List Filling}
    (before : ∀ f ∈ fillings.head?, a ≤ f.start) (inside : ∀ f ∈ fillings.head?, f.start ≤ t.length) :
    (t.take a ++ fill t a fillings).take a = t.take a := by
  cases fillings with
  | nil => rw [fill, List.take_append_drop]
  | cons f fs =>
    have bound := Nat.le_trans (before f rfl) (inside f rfl)
    apply List.take_left'
    rw [List.length_take, Nat.min_eq_left bound]

end Text

namespace Edit

open Text

/-- The edit, as its range stands in the text, fills the span. -/
structure Fills (t : List Char) (e : Edit) (f : Filling) : Prop where
  start : offsetOf t e.range.start = .ok f.start
  stop : offsetOf t e.range.stop = .ok f.stop
  text : e.replacement = f.text

variable {t : List Char} {e : Edit} {f : Filling}

theorem Fills.ordered (fills : Fills t e f) : f.start ≤ f.stop :=
  offset_le_of_le e.range.start_le_stop fills.start fills.stop

theorem Fills.inside (fills : Fills t e f) : f.stop ≤ t.length := offset_le_length fills.stop

theorem head_le_length {edits : List Edit} {fillings : List Filling}
    (resolved : List.Forall₂ (Fills t) edits fillings) :
    ∀ f ∈ fillings.head?, f.start ≤ t.length := by
  cases resolved with
  | nil => simp
  | cons fills rest =>
    rintro f head
    obtain rfl := Option.some.inj head
    exact Nat.le_trans fills.ordered fills.inside

/-- An edit does to a text what it does to another one that is the same up to the end of its range. -/
theorem Fills.apply_of_take_eq {u : List Char} (fills : Fills t e f)
    (same : t.take (f.stop + 1) = u.take (f.stop + 1)) (within : f.stop ≤ u.length) :
    e.apply u = .ok (u.take f.start ++ f.text ++ u.drop f.stop) := by
  have ordered := fills.ordered
  have inside := fills.inside
  have front : t.take (f.start + 1) = u.take (f.start + 1) := by
    have less : f.start + 1 ≤ f.stop + 1 := by omega
    simpa only [List.take_take, Nat.min_eq_left less] using congrArg (List.take (f.start + 1)) same
  rw [← fills.text]
  apply apply_of_ok
  · exact (offsetOf_congr front (by omega) (by omega)).mp fills.start
  · exact (offsetOf_congr same inside within).mp fills.stop

/-- One more edit before the spans that are filled already. -/
theorem Fills.apply_filled {u : List Char} {fillings : List Filling} {a : Nat} (fills : Fills t e f)
    (low : a ≤ f.start) (filled : u = t.take f.stop ++ fill t f.stop fillings)
    (same : t.take (f.stop + 1) = u.take (f.stop + 1)) :
    e.apply u = .ok (t.take a ++ fill t a (f :: fillings)) := by
  have ordered := fills.ordered
  have inside := fills.inside
  have front : (t.take f.stop).length = f.stop := by
    rw [List.length_take]
    omega
  have within : f.stop ≤ u.length := by
    rw [filled, List.length_append, front]
    omega
  have before : u.take f.start = t.take f.start := by
    rw [filled, List.take_append_of_le_length (by omega), List.take_take, Nat.min_eq_left ordered]
  have behind : u.drop f.stop = fill t f.stop fillings := by
    rw [filled]
    exact List.drop_left' front
  rw [fills.apply_of_take_eq same within, before, behind, ← take_append_slice low, fill]
  simp only [List.append_assoc]

/-- The last spans are filled, and up to the first of them the text is as it was: where it is cut
makes no difference. -/
theorem foldrM_apply_from {edits : List Edit} {fillings : List Filling}
    (resolved : List.Forall₂ (Fills t) edits fillings)
    (apart : fillings.IsChain fun f g => f.stop < g.start) (a : Nat)
    (before : ∀ f ∈ fillings.head?, a ≤ f.start) :
    edits.foldrM (fun e u => e.apply u) t = .ok (t.take a ++ fill t a fillings) := by
  induction resolved generalizing a with
  | nil =>
    rw [fill, List.take_append_drop]
    rfl
  | @cons e f edits fillings fills rest ih =>
    obtain ⟨gap, chained⟩ := List.isChain_cons.mp apart
    have applied := ih chained f.stop fun g head => Nat.le_of_lt (gap g head)
    -- The same text, cut behind the code point at the end of the range, which is still the old one.
    have beyond := ih chained (f.stop + 1) gap
    have equal := Except.ok.inj (applied.symm.trans beyond)
    rw [List.foldrM_cons, applied]
    refine fills.apply_filled (before f rfl) rfl ?_
    rw [equal, take_take_append_fill gap (head_le_length rest)]

/-- Edits of spans with a gap between any two, made from the last to the first, all succeed and fill
the spans as if at once. -/
theorem foldrM_apply (t : List Char) (edits : List Edit) (fillings : List Filling)
    (resolved : List.Forall₂ (Fills t) edits fillings)
    (apart : fillings.IsChain fun f g => f.stop < g.start) :
    edits.foldrM (fun e u => e.apply u) t = .ok (fill t 0 fillings) :=
  foldrM_apply_from resolved apart 0 fun _ _ => Nat.zero_le _

/-- The second edit removes a break; the first then joins a line feed to the carriage return before
its caret, which stands behind the break of its line. -/
theorem foldrM_apply_at_breaks :
    [(⟨⟨⟨0, 2⟩, ⟨0, 2⟩, by decide⟩, ['\n']⟩ : Edit), ⟨⟨⟨1, 1⟩, ⟨1, 2⟩, by decide⟩, []⟩].foldrM
        (fun e u => e.apply u) ['a', '\r', 'b', '\n', 'c'] =
      .ok (fill ['a', '\r', 'b', '\n', 'c'] 0 [⟨2, 2, ['\n']⟩, ⟨3, 4, []⟩]) ∧
    fill ['a', '\r', 'b', '\n', 'c'] 0 [⟨2, 2, ['\n']⟩, ⟨3, 4, []⟩] = ['a', '\r', '\n', 'b', 'c'] :=
  ⟨foldrM_apply _ _ _ (.cons ⟨rfl, rfl, rfl⟩ (.cons ⟨rfl, rfl, rfl⟩ .nil)) (by simp), rfl⟩

end Edit

end OpenDocs
