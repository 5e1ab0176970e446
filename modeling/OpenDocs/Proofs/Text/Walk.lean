import OpenDocs.Proofs.Text.Carets

/-!
# Positions read off the text

The position of an offset is reached by going through the text code point by code point: behind a
break to the next line, otherwise one column on. So it depends on the text up to the offset and on
the one code point there, which may be the line feed of a carriage return. Going on from an offset
is going through the rest of the text.
-/

namespace OpenDocs.Position

/-- The place that is `d` further than `p`; columns of another line do not count from `p`. -/
def advance (p d : Position) : Position :=
  if d.line = 0 then ⟨p.line, p.character + d.character⟩ else ⟨p.line + d.line, d.character⟩

@[simp] theorem advance_line (p d : Position) : (p.advance d).line = p.line + d.line := by
  unfold advance
  split
  · next same => simp [same]
  · rfl

theorem advance_character_of_pos {p d : Position} (later : 0 < d.line) :
    (p.advance d).character = d.character := by
  rw [advance, if_neg (Nat.ne_of_gt later)]

@[simp] theorem origin_advance (d : Position) : advance ⟨0, 0⟩ d = d := by
  unfold advance
  split
  · next same => exact Position.ext same.symm (Nat.zero_add _)
  · exact Position.ext (Nat.zero_add _) rfl

@[simp] theorem advance_origin (p : Position) : p.advance ⟨0, 0⟩ = p := rfl

theorem advance_assoc (p d e : Position) : (p.advance d).advance e = p.advance (d.advance e) := by
  by_cases here : e.line = 0
  · by_cases first : d.line = 0 <;> simp [advance, here, first, Nat.add_assoc]
  · by_cases first : d.line = 0 <;> simp [advance, here, first, Nat.add_assoc]

end OpenDocs.Position

namespace OpenDocs.Text

/-- A line ends behind `c` when `rest` follows; a carriage return takes its line feed along. -/
def EndsLine (c : Char) (rest : List Char) : Prop :=
  c = '\n' ∨ c = '\r' ∧ rest.head? ≠ some '\n'

instance (c : Char) (rest : List Char) : Decidable (EndsLine c rest) :=
  inferInstanceAs (Decidable (c = '\n' ∨ c = '\r' ∧ rest.head? ≠ some '\n'))

def stepOver (c : Char) (rest : List Char) : Position := if EndsLine c rest then ⟨1, 0⟩ else ⟨0, 1⟩

theorem stepOver_of_endsLine {c : Char} {rest : List Char} (ends : EndsLine c rest) :
    stepOver c rest = ⟨1, 0⟩ := if_pos ends

theorem stepOver_of_not_endsLine {c : Char} {rest : List Char} (inside : ¬ EndsLine c rest) :
    stepOver c rest = ⟨0, 1⟩ := if_neg inside

theorem stepOver_congr (c : Char) {rest others : List Char} (same : rest.head? = others.head?) :
    stepOver c rest = stepOver c others := by
  have alike : EndsLine c rest ↔ EndsLine c others := by rw [EndsLine, EndsLine, same]
  by_cases ends : EndsLine c rest
  · rw [stepOver_of_endsLine ends, stepOver_of_endsLine (alike.mp ends)]
  · rw [stepOver_of_not_endsLine ends, stepOver_of_not_endsLine (mt alike.mpr ends)]

def walk : List Char → Nat → Position
  | [], n => ⟨0, n⟩
  | _ :: _, 0 => ⟨0, 0⟩
  | c :: rest, n + 1 => (stepOver c rest).advance (walk rest n)

@[simp] theorem walk_zero (t : List Char) : walk t 0 = ⟨0, 0⟩ := by
  cases t <;> rfl

theorem advance_walk_zero (t : List Char) (index start length : Nat) :
    (⟨index, length⟩ : Position).advance (walk t 0) = ⟨index, start + length + 0 - start⟩ := by
  rw [walk_zero, Position.advance_origin, Nat.add_zero, Nat.add_sub_cancel_left]

/-- The line that is open when a table is begun holds what was read of it. -/
theorem locateFrom_linesFrom_of_le (start length : Nat) (t : List Char) {index offset : Nat}
    (within : offset ≤ start + length) :
    locateFrom index offset (linesFrom start length t) = ⟨index, offset - start⟩ := by
  fun_induction linesFrom start length t with
  | case1 start length => rfl
  | case2 start length rest ih =>
    exact locateFrom_head _ (by simp only [Line.next, Line.width]; omega)
  | case3 start length c rest notPair isBreak ih =>
    exact locateFrom_head _ (by simp only [Line.next, Line.width]; omega)
  | case4 start length c rest notPair notBreak ih => exact ih (by omega)

theorem locateFrom_linesFrom (start length : Nat) (t : List Char) (index n : Nat) :
    locateFrom index (start + length + n) (linesFrom start length t) =
      (⟨index, length⟩ : Position).advance (walk t n) := by
  fun_induction linesFrom start length t generalizing index n with
  | case1 start length =>
    rw [Nat.add_assoc]
    exact Position.ext rfl (Nat.add_sub_cancel_left start (length + n))
  | case2 start length rest ih =>
    have carriage : stepOver '\r' ('\n' :: rest) = ⟨0, 1⟩ :=
      stepOver_of_not_endsLine (by simp [EndsLine])
    have feed : stepOver '\n' rest = ⟨1, 0⟩ := stepOver_of_endsLine (.inl rfl)
    cases n with
    | zero =>
      rw [locateFrom_head _ (by simp only [Line.next, Line.width]; omega), advance_walk_zero _ _ start]
    | succ n =>
      cases n with
      | zero =>
        rw [locateFrom_head _ (by simp only [Line.next, Line.width]; omega), walk, walk_zero,
          carriage, Nat.add_assoc, Nat.add_sub_cancel_left]
        rfl
      | succ n =>
        rw [locateFrom_tail (linesFrom_ne_nil _ _ _) (by simp only [Line.next, Line.width]; omega),
          show start + length + (n + 1 + 1) = start + length + 2 + 0 + n by omega, ih, walk, walk,
          carriage, feed, ← Position.advance_assoc, ← Position.advance_assoc]
        rfl
  | case3 start length c rest notPair isBreak ih =>
    have ends : EndsLine c rest := by
      rcases isBreak with carriage | feed
      · refine .inr ⟨carriage, fun paired => ?_⟩
        obtain ⟨others, rfl⟩ := List.head?_eq_some_iff.mp paired
        exact notPair others carriage rfl
      · exact .inl feed
    cases n with
    | zero =>
      rw [locateFrom_head _ (by simp only [Line.next, Line.width]; omega), advance_walk_zero _ _ start]
    | succ n =>
      rw [locateFrom_tail (linesFrom_ne_nil _ _ _) (by simp only [Line.next, Line.width]; omega),
        show start + length + (n + 1) = start + length + 1 + 0 + n by omega, ih, walk,
        stepOver_of_endsLine ends, ← Position.advance_assoc]
      rfl
  | case4 start length c rest notPair notBreak ih =>
    have inside : ¬ EndsLine c rest := fun ends =>
      notBreak (ends.elim .inr fun carriage => .inl carriage.1)
    cases n with
    | zero =>
      rw [locateFrom_linesFrom_of_le _ _ _ (by omega), advance_walk_zero _ _ start]
    | succ n =>
      rw [show start + length + (n + 1) = start + (length + 1) + n by omega, ih, walk,
        stepOver_of_not_endsLine inside, ← Position.advance_assoc]
      rfl

theorem positionAt_eq_walk (t : List Char) (n : Nat) : positionAt t n = walk t n := by
  have read := locateFrom_linesFrom 0 0 t 0 n
  rwa [Nat.add_zero, Nat.zero_add, Position.origin_advance] at read

theorem walk_add (t : List Char) (a b : Nat) :
    walk t (a + b) = (walk t a).advance (walk (t.drop a) b) := by
  induction t generalizing a with
  | nil => rw [List.drop_nil]; rfl
  | cons c rest ih =>
    cases a with
    | zero => rw [Nat.zero_add, walk_zero, Position.origin_advance, List.drop_zero]
    | succ a =>
      rw [Nat.add_right_comm, walk, walk, ih, List.drop_succ_cons, Position.advance_assoc]

/-- A position depends on no code point behind its offset. -/
theorem walk_congr {t u : List Char} {n : Nat} (same : t.take (n + 1) = u.take (n + 1)) :
    walk t n = walk u n := by
  induction n generalizing t u with
  | zero => rw [walk_zero, walk_zero]
  | succ n ih =>
    cases t with
    | nil =>
      have none : u = [] := by simpa using same.symm
      rw [none]
    | cons c rest =>
      cases u with
      | nil => simp at same
      | cons d others =>
        simp only [List.take_succ_cons, List.cons.injEq] at same
        obtain ⟨rfl, same⟩ := same
        have head : rest.head? = others.head? := by
          simpa only [List.head?_take, Nat.add_one_ne_zero, if_false] using congrArg List.head? same
        rw [walk, walk, ih same, stepOver_congr c head]

variable {t u : List Char}

/-- Going on from an offset is going through the rest of the text. -/
theorem positionAt_add (t : List Char) (a b : Nat) :
    positionAt t (a + b) = (positionAt t a).advance (positionAt (t.drop a) b) := by
  rw [positionAt_eq_walk, positionAt_eq_walk, positionAt_eq_walk, walk_add]

theorem positionAt_congr {n : Nat} (same : t.take (n + 1) = u.take (n + 1)) :
    positionAt t n = positionAt u n := by
  rw [positionAt_eq_walk, positionAt_eq_walk, walk_congr same]

theorem lineCount_eq_add_drop {n : Nat} (inside : n ≤ t.length) :
    lineCount t = (positionAt t n).line + lineCount (t.drop n) := by
  have split := positionAt_add t n (t.drop n).length
  rw [List.length_drop, Nat.add_sub_cancel' inside] at split
  rw [← positionAt_length, ← positionAt_length, split, Position.advance_line, List.length_drop,
    Nat.add_assoc]

/-- The offset of a position, told by where the offsets up to it stand. -/
theorem offsetOf_eq_ok_iff_positionAt {q : Position} {n : Nat} :
    offsetOf t q = .ok n ↔ n ≤ t.length ∧ (positionAt t n = q ∨
      positionAt t n = ⟨q.line + 1, 0⟩ ∧ q.character ≤ n ∧
        positionAt t (n - q.character) = ⟨q.line, 0⟩) := by
  rw [offsetOf_eq_ok_iff]
  refine and_congr_right fun inside => or_congr eq_comm ?_
  constructor
  · rintro ⟨first, next, l, found, full⟩
    have begins : positionAt t n = ⟨q.line + 1, 0⟩ := Position.ext next first
    have place := start_of_next_line inside begins found
    have width : q.character = l.width := full
    have start : n - q.character = l.start := by omega
    rw [start]
    exact ⟨begins, by omega, ((lines_tiles t).start_stands found).positionAt_eq⟩
  · rintro ⟨begins, within, start⟩
    obtain ⟨l, found, place, _⟩ := start ▸ positionAt_stands (t := t) (n := n - q.character) (by omega)
    have next := start_of_next_line inside begins found
    refine ⟨by rw [begins], by rw [begins], l, found, ?_⟩
    show q.character = l.width
    have begun : n - q.character = l.start := place
    omega

/-- Two texts that agree up to and with an offset resolve the same positions to it. -/
theorem offsetOf_congr {q : Position} {n : Nat} (same : t.take (n + 1) = u.take (n + 1))
    (inside : n ≤ t.length) (within : n ≤ u.length) :
    offsetOf t q = .ok n ↔ offsetOf u q = .ok n := by
  have here := positionAt_congr same
  have before : positionAt t (n - q.character) = positionAt u (n - q.character) := by
    apply positionAt_congr
    have less : n - q.character + 1 ≤ n + 1 := by omega
    simpa only [List.take_take, Nat.min_eq_left less] using
      congrArg (List.take (n - q.character + 1)) same
  rw [offsetOf_eq_ok_iff_positionAt, offsetOf_eq_ok_iff_positionAt, here, before,
    and_iff_right inside, and_iff_right within]

end OpenDocs.Text
