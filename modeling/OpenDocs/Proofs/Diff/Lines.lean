import OpenDocs.Diff.Unified
import OpenDocs.Proofs.Diff.Hunks
import OpenDocs.Proofs.Number.Decimal

/-!
# The lines of a hunk

The header of a hunk names the spans of lines that the hunk leads from and to. Of its own lines those
that are kept or removed are the first span, and those that are kept or added the second.
-/

namespace OpenDocs.Diff

/-- The bounds of the lines that are named by the first one, counted from 1, and how many there are;
the line before them is named if there are none, and a single line without a count. -/
def readSpan? (cs : List Char) : Option (Nat × Nat) :=
  match Text.cut ',' cs with
  | [line] => do
    let line ← readNumber? line
    some (line - 1, line)
  | [line, count] => do
    let line ← readNumber? line
    let count ← readNumber? count
    some (if count = 0 then (line, line) else (line - 1, line - 1 + count))
  | _ => none

def readHeader? (s : String) : Option ((Nat × Nat) × (Nat × Nat)) :=
  match Text.cut ' ' s.toList with
  | [['@', '@'], '-' :: old, '+' :: new, ['@', '@', '\n']] => do
    let old ← readSpan? old
    let new ← readSpan? new
    some (old, new)
  | _ => none

theorem toList_spanText (start stop : Nat) :
    (spanText start stop).toList =
      if stop - start = 1 then Nat.toDigits 10 (start + 1)
      else Nat.toDigits 10 (if stop - start = 0 then start else start + 1) ++
        ',' :: Nat.toDigits 10 (stop - start) := by
  simp only [spanText]
  split
  · exact Nat.toList_repr
  · simp only [String.toList_append, Nat.toString_eq_repr, Nat.toList_repr, List.append_assoc]
    rfl

theorem readSpan?_spanText {start stop : Nat} (ordered : start ≤ stop) :
    readSpan? (spanText start stop).toList = some (start, stop) := by
  have free := fun n => not_mem_toDigits (show ','.isDigit = false from rfl) n
  rw [toList_spanText, readSpan?]
  by_cases single : stop - start = 1
  · rw [if_pos single, Text.cut_of_not_mem (free _)]
    simp only [readNumber?_toDigits, Option.bind_eq_bind, Option.bind_some]
    rw [Nat.add_sub_cancel, ← single, Nat.add_sub_cancel' ordered]
  · rw [if_neg single, Text.cut_append_mark (free _), Text.cut_of_not_mem (free _)]
    simp only [readNumber?_toDigits, Option.bind_eq_bind, Option.bind_some, Option.some.injEq]
    split
    · next none => rw [Nat.le_antisymm ordered (Nat.le_of_sub_eq_zero none)]
    · rw [Nat.add_sub_cancel, Nat.add_sub_cancel' ordered]

theorem not_mem_spanText {mark : Char} (start stop : Nat) (other : mark.isDigit = false)
    (plain : mark ≠ ',') : mark ∉ (spanText start stop).toList := by
  rw [toList_spanText]
  split <;> simp [not_mem_toDigits other, plain]

theorem Hunk.readHeader?_header (h : Hunk) (old_le : h.oldStart ≤ h.oldStop)
    (new_le : h.newStart ≤ h.newStop) :
    readHeader? h.header = some ((h.oldStart, h.oldStop), (h.newStart, h.newStop)) := by
  have free := fun start stop =>
    not_mem_spanText start stop (show ' '.isDigit = false from rfl) (by decide)
  have chars : h.header.toList = ['@', '@'] ++ ' ' :: (('-' :: (spanText h.oldStart h.oldStop).toList)
      ++ ' ' :: (('+' :: (spanText h.newStart h.newStop).toList) ++ ' ' :: ['@', '@', '\n'])) := by
    simp only [Hunk.header, String.toList_append, List.append_assoc]
    rfl
  have cut : Text.cut ' ' h.header.toList = [['@', '@'], '-' :: (spanText h.oldStart h.oldStop).toList,
      '+' :: (spanText h.newStart h.newStop).toList, ['@', '@', '\n']] := by
    rw [chars, Text.cut_append_mark (by decide), Text.cut_append_mark (by simp [free]),
      Text.cut_append_mark (by simp [free]), Text.cut_of_not_mem (by decide)]
  rw [readHeader?, cut]
  simp only [readSpan?_spanText old_le, readSpan?_spanText new_le, Option.bind_eq_bind,
    Option.bind_some]

/-- The lines of a hunk, each behind its mark. -/
def Hunk.body (old new : List (List Char)) (h : Hunk) : List (List Char) :=
  h.flatMap (Step.lines old new)

theorem Hunk.body_cons (old new : List (List Char)) (s : Step) (rest : Hunk) :
    Hunk.body old new (s :: rest) = s.lines old new ++ Hunk.body old new rest := List.flatMap_cons

theorem Hunk.body_append (old new : List (List Char)) (first second : Hunk) :
    Hunk.body old new (first ++ second) = Hunk.body old new first ++ Hunk.body old new second :=
  List.flatMap_append

/-- A line that is marked as kept. -/
def isKept (line : List Char) : Bool := line.head? == some ' '

/-- The lines behind one of the marks. -/
def unmarked (marks : List Char) (lines : List (List Char)) : List (List Char) :=
  lines.filterMap fun
    | mark :: line => if mark ∈ marks then some line else none
    | [] => none

theorem unmarked_append (marks : List Char) (first second : List (List Char)) :
    unmarked marks (first ++ second) = unmarked marks first ++ unmarked marks second :=
  List.filterMap_append

theorem unmarked_marked {marks : List Char} {mark : Char} (held : mark ∈ marks)
    (lines : List (List Char)) : unmarked marks (marked mark lines) = lines := by
  rw [unmarked, marked, List.filterMap_map]
  simp [held]

theorem unmarked_marked_of_not_mem {marks : List Char} {mark : Char} (free : mark ∉ marks)
    (lines : List (List Char)) : unmarked marks (marked mark lines) = [] := by
  rw [unmarked, marked, List.filterMap_map]
  simp [free]

section
variable {old new : List (List Char)} {s : Step}

theorem Step.lines_of_kept (kept : s.kept = true) :
    s.lines old new = marked ' ' (span old s.oldStart s.oldStop) := by
  rw [Step.lines, if_pos kept, span]

theorem Step.lines_of_changed (changed : s.kept = false) :
    s.lines old new = marked '-' (span old s.oldStart s.oldStop) ++
      marked '+' (span new s.newStart s.newStop) := by
  rw [Step.lines, if_neg (by simp [changed]), span, span]

theorem Step.old_lines (old new : List (List Char)) (s : Step) :
    unmarked [' ', '-'] (s.lines old new) = span old s.oldStart s.oldStop := by
  cases kept : s.kept with
  | true => rw [Step.lines_of_kept kept, unmarked_marked (by decide)]
  | false =>
    rw [Step.lines_of_changed kept, unmarked_append, unmarked_marked (by decide),
      unmarked_marked_of_not_mem (by decide), List.append_nil]

theorem Step.Valid.new_lines (valid : s.Valid old new) :
    unmarked [' ', '+'] (s.lines old new) = span new s.newStart s.newStop := by
  cases kept : s.kept with
  | true => rw [Step.lines_of_kept kept, unmarked_marked (by decide), valid.same kept]
  | false =>
    rw [Step.lines_of_changed kept, unmarked_append, unmarked_marked_of_not_mem (by decide),
      unmarked_marked (by decide), List.nil_append]

theorem Step.mark_of_mem_lines :
    ∀ line ∈ s.lines old new, ∃ mark text, line = mark :: text ∧ mark ∈ [' ', '-', '+'] := by
  intro line met
  cases kept : s.kept with
  | true =>
    rw [Step.lines_of_kept kept, marked, List.mem_map] at met
    obtain ⟨text, _, rfl⟩ := met
    exact ⟨' ', text, rfl, by decide⟩
  | false =>
    rw [Step.lines_of_changed kept, List.mem_append, marked, marked, List.mem_map, List.mem_map] at met
    obtain ⟨text, _, rfl⟩ | ⟨text, _, rfl⟩ := met
    · exact ⟨'-', text, rfl, by decide⟩
    · exact ⟨'+', text, rfl, by decide⟩

theorem Step.length_lines_of_kept (kept : s.kept = true) : (s.lines old new).length ≤ s.size := by
  rw [Step.lines_of_kept kept, marked, List.length_map, length_span, Step.size]
  omega

theorem Step.not_isKept (changed : s.kept = false) :
    ∀ line ∈ s.lines old new, isKept line = false := by
  rw [Step.lines_of_changed changed]
  intro line met
  rw [List.mem_append, marked, marked, List.mem_map, List.mem_map] at met
  obtain ⟨_, _, rfl⟩ | ⟨_, _, rfl⟩ := met <;> rfl

theorem Step.Valid.lines_ne_nil (valid : s.Valid old new) (changed : s.kept = false) :
    s.lines old new ≠ [] := by
  have old_length := valid.old_length
  have new_length := valid.new_length
  have changes := valid.changes changed
  rw [Step.lines_of_changed changed, ← List.length_pos_iff, List.length_append, marked, marked,
    List.length_map, List.length_map, length_span, length_span]
  omega

variable {i j oldStop newStop : Nat} {h : Hunk}

theorem Leads.valid (leads : Leads old new i j oldStop newStop h) : ∀ s ∈ h, s.Valid old new := by
  induction leads with
  | nil => simp
  | cons _ _ valid _ ih => exact List.forall_mem_cons.mpr ⟨valid, ih⟩

theorem Leads.old_lines (leads : Leads old new i j oldStop newStop h) :
    unmarked [' ', '-'] (h.body old new) = span old i oldStop := by
  induction leads with
  | nil => simp [Hunk.body, unmarked]
  | @cons _ _ _ _ s rest old_eq new_eq valid rest_leads ih =>
    subst old_eq new_eq
    rw [Hunk.body_cons, unmarked_append, s.old_lines, ih,
      span_append valid.old_le rest_leads.le.1]

theorem Leads.new_lines (leads : Leads old new i j oldStop newStop h) :
    unmarked [' ', '+'] (h.body old new) = span new j newStop := by
  induction leads with
  | nil => simp [Hunk.body, unmarked]
  | cons old_eq new_eq valid rest_leads ih =>
    subst old_eq new_eq
    rw [Hunk.body_cons, unmarked_append, valid.new_lines, ih,
      span_append valid.new_le rest_leads.le.2]

variable {limit : Nat}

theorem Step.Short.length_body (short : s.Short limit) (kept : s.kept = true) :
    (Hunk.body old new [s]).length ≤ limit := by
  rw [Hunk.body, List.flatMap_singleton]
  exact Nat.le_trans (Step.length_lines_of_kept kept) (short kept)

namespace Hunk.Good

/-- Before the first change there is at most one kept step, and behind the last one too. -/
theorem exists_first_change (good : h.Good old new limit) :
    ∃ (front : Hunk) (s : Step) (back : Hunk), h = front ++ s :: back ∧ s.kept = false ∧
      (front.body old new).length ≤ limit := by
  obtain ⟨change, met, changed⟩ := good.changes
  obtain ⟨s, rest, rfl⟩ := List.exists_cons_of_ne_nil (List.ne_nil_of_mem met)
  cases kept : s.kept with
  | false => exact ⟨[], s, rest, rfl, kept, Nat.zero_le _⟩
  | true =>
    have inner : change ∈ rest := by
      obtain rfl | met := List.mem_cons.mp met
      · rw [kept] at changed
        cases changed
      · exact met
    obtain ⟨t, rest, rfl⟩ := List.exists_cons_of_ne_nil (List.ne_nil_of_mem inner)
    have other := (alternate_cons.mp good.alternate).1 t rfl
    exact ⟨[s], t, rest, rfl, by simpa [kept] using other, (good.first s rfl).length_body kept⟩

theorem exists_last_change (good : h.Good old new limit) :
    ∃ (front : Hunk) (s : Step) (back : Hunk), h = front ++ s :: back ∧ s.kept = false ∧
      (back.body old new).length ≤ limit := by
  obtain ⟨change, met, changed⟩ := good.changes
  obtain rfl | ⟨init, s, rfl⟩ := List.eq_nil_or_concat' h
  · cases met
  cases kept : s.kept with
  | false => exact ⟨init, s, [], rfl, kept, Nat.zero_le _⟩
  | true =>
    have inner : change ∈ init := by
      obtain met | met := List.mem_append.mp met
      · exact met
      · obtain rfl := List.mem_singleton.mp met
        rw [kept] at changed
        cases changed
    obtain rfl | ⟨init, t, rfl⟩ := List.eq_nil_or_concat' init
    · cases inner
    have other := (alternate_append.mp good.alternate).2.2 t (by simp) s rfl
    refine ⟨init, t, [s], by simp, by simpa [kept] using other, ?_⟩
    exact (good.last s (by simp)).length_body kept

end Hunk.Good

theorem length_takeWhile_le {α : Type} {p : α → Bool} {y : α} (stops : p y = false)
    (xs zs : List α) :
    ((xs ++ y :: zs).takeWhile p).length ≤ xs.length := by
  induction xs with
  | nil => simp [stops]
  | cons x xs ih =>
    rw [List.cons_append, List.takeWhile_cons]
    split
    · exact Nat.succ_le_succ ih
    · exact Nat.zero_le _

theorem Hunk.Good.leading_le (good : h.Good old new limit) :
    ((h.body old new).takeWhile isKept).length ≤ limit := by
  obtain ⟨front, s, back, rfl, changed, short⟩ := good.exists_first_change
  have valid := good.leads.valid s (by simp)
  obtain ⟨line, lines, some⟩ := List.exists_cons_of_ne_nil (valid.lines_ne_nil changed)
  have stops := Step.not_isKept changed line (some ▸ List.mem_cons_self)
  rw [Hunk.body_append, Hunk.body_cons, some, List.cons_append]
  exact Nat.le_trans (length_takeWhile_le stops _ _) short

theorem Hunk.Good.trailing_le (good : h.Good old new limit) :
    ((h.body old new).reverse.takeWhile isKept).length ≤ limit := by
  obtain ⟨front, s, back, rfl, changed, short⟩ := good.exists_last_change
  have valid := good.leads.valid s (by simp)
  obtain none | ⟨lines, line, some⟩ := List.eq_nil_or_concat' (s.lines old new)
  · exact absurd none (valid.lines_ne_nil changed)
  have held : line ∈ s.lines old new := some ▸ List.mem_append_right _ List.mem_cons_self
  have reversed : (Hunk.body old new (front ++ s :: back)).reverse = (Hunk.body old new back).reverse ++
      line :: (lines.reverse ++ (Hunk.body old new front).reverse) := by
    simp [Hunk.body_append, Hunk.body_cons, some]
  rw [reversed]
  refine Nat.le_trans (length_takeWhile_le (Step.not_isKept changed line held) _ _) ?_
  rwa [List.length_reverse]

theorem Hunk.Good.changed_line (good : h.Good old new limit) :
    ∃ line ∈ h.body old new, isKept line = false := by
  obtain ⟨s, met, changed⟩ := good.changes
  have valid := good.leads.valid s met
  obtain ⟨line, lines, some⟩ := List.exists_cons_of_ne_nil (valid.lines_ne_nil changed)
  have held : line ∈ s.lines old new := some ▸ List.mem_cons_self
  exact ⟨line, List.mem_flatMap.mpr ⟨s, met, held⟩, Step.not_isKept changed line held⟩

end

end OpenDocs.Diff
