import OpenDocs.Text.Lines

/-!
# The line table tiles the text

Each line begins where the line before it ends, break included, and only the last line has no break.
What holds of positions and offsets follows from this alone: a place of the text stands on one line
before that line's end, and a caret behind a break is the start of the next line.
-/

namespace OpenDocs.Text

/-- The lines cover the offsets from `start` to `stop` without a gap. -/
inductive Tiles (stop : Nat) : Nat → List Line → Prop
  | last {l : Line} {start : Nat} : l.start = start → l.breakWidth = 0 → l.next = stop →
      Tiles stop start [l]
  | more {l : Line} {ls : List Line} {start : Nat} : l.start = start → 0 < l.breakWidth →
      Tiles stop l.next ls → Tiles stop start (l :: ls)

theorem linesFrom_tiles (start length : Nat) (t : List Char) :
    Tiles (start + length + t.length) start (linesFrom start length t) := by
  fun_induction linesFrom start length t with
  | case1 start length => exact .last rfl rfl rfl
  | case2 start length rest ih =>
    refine .more rfl (by simp) ?_
    simpa [Line.next, Line.width, Nat.add_assoc, Nat.add_comm, Nat.add_left_comm] using ih
  | case3 start length c rest notPair isBreak ih =>
    refine .more rfl (by simp) ?_
    simpa [Line.next, Line.width, Nat.add_assoc, Nat.add_comm, Nat.add_left_comm] using ih
  | case4 start length c rest notPair notBreak ih =>
    simpa [Nat.add_assoc, Nat.add_comm, Nat.add_left_comm] using ih

theorem lines_tiles (t : List Char) : Tiles t.length 0 (lines t) := by
  simpa [lines] using linesFrom_tiles 0 0 t

namespace Tiles

variable {stop start : Nat} {table : List Line}

theorem ne_nil (tiled : Tiles stop start table) : table ≠ [] := by
  cases tiled <;> exact List.cons_ne_nil _ _

theorem start_le_stop (tiled : Tiles stop start table) : start ≤ stop := by
  induction tiled with
  | last begins noBreak ends =>
    simp only [Line.next] at ends
    omega
  | more begins hasBreak rest ih =>
    simp only [Line.next] at ih
    omega

/-- Each line before a line takes at least its break. -/
theorem add_index_le_start (tiled : Tiles stop start table) {i : Nat} {l : Line}
    (found : table[i]? = some l) : start + i ≤ l.start := by
  induction tiled generalizing i with
  | last begins => cases i <;> simp_all
  | @more m ls start begins hasBreak rest ih =>
    cases i with
    | zero => simp_all
    | succ i =>
      have behind := ih found
      simp only [Line.next, Line.width] at behind
      omega

theorem next_le_stop (tiled : Tiles stop start table) {i : Nat} {l : Line}
    (found : table[i]? = some l) : l.next ≤ stop := by
  induction tiled generalizing i with
  | last _ _ ends => cases i <;> simp_all
  | @more m ls start begins hasBreak rest ih =>
    cases i with
    | succ i => exact ih found
    | zero =>
      obtain rfl : m = l := by simpa using found
      exact rest.start_le_stop

theorem start_eq_next (tiled : Tiles stop start table) {i : Nat} {l m : Line}
    (found : table[i]? = some l) (after : table[i + 1]? = some m) :
    m.start = l.next ∧ 0 < l.breakWidth := by
  induction tiled generalizing i with
  | last => simp at after
  | @more k ls start begins hasBreak rest ih =>
    cases i with
    | succ i => exact ih found after
    | zero =>
      obtain rfl : k = l := by simpa using found
      refine ⟨?_, hasBreak⟩
      cases rest <;> simp_all

theorem width_pos_or_last (tiled : Tiles stop start table) {i : Nat} {l : Line}
    (found : table[i]? = some l) : 0 < l.width ∨ i + 1 = table.length := by
  have held := (List.getElem?_eq_some_iff.mp found).1
  cases after : table[i + 1]? with
  | none =>
    have bound := List.getElem?_eq_none_iff.mp after
    omega
  | some m =>
    have hasBreak := (tiled.start_eq_next found after).2
    simp only [Line.width]
    omega

theorem next_add_index_le_start (tiled : Tiles stop start table) {i d : Nat} {l m : Line}
    (found : table[i]? = some l) (after : table[i + 1 + d]? = some m) :
    l.next + d ≤ m.start := by
  induction tiled generalizing i with
  | last => simp at after
  | @more k ls start begins hasBreak rest ih =>
    cases i with
    | succ i =>
      rw [show i + 1 + 1 + d = (i + 1 + d) + 1 by omega] at after
      exact ih found after
    | zero =>
      obtain rfl : k = l := by simpa using found
      rw [show 0 + 1 + d = d + 1 by omega] at after
      exact rest.add_index_le_start after

end Tiles

end OpenDocs.Text
