import OpenDocs.Edit
import OpenDocs.Failure
import OpenDocs.Proofs.Text.Carets

/-!
# What becomes of an edit

The order of positions is the order of offsets, so the ends of a range that are in the text are in
order there, and no edit is refused but for an end that is outside the text. This is told unless the
position has a number that is too long to be told.
-/

namespace OpenDocs

namespace Text

/-- A caret can stand at the position: the line is there, and the column is not past its break. -/
def Admits (t : List Char) (p : Position) : Prop :=
  ∃ l, (lines t)[p.line]? = some l ∧ p.character ≤ l.length + l.breakWidth

/-- What is told of a position outside a text: the bound that it violates, the line's bound first. -/
inductive Reports (t : List Char) (p : Position) (flaw : RangeFlaw) : Prop
  | line : lineCount t ≤ p.line → flaw.reason = "line" → flaw.limit? = some ((lineCount t : Int) - 1) →
      flaw.place? = some (↑p.line, ↑p.character) → flaw.numbers = [↑p.line] → Reports t p flaw
  | character {l : Line} : (lines t)[p.line]? = some l → l.length + l.breakWidth < p.character →
      flaw.reason = "character" → flaw.limit? = some ((l.length : Int) + l.breakWidth) →
      flaw.place? = some (↑p.line, ↑p.character) → flaw.numbers = p.numbers → Reports t p flaw

variable {t : List Char} {p : Position}

theorem admits_iff : Admits t p ↔ ∃ n, offsetOf t p = .ok n := by
  constructor
  · rintro ⟨l, found, within⟩
    exact ⟨_, resolve_eq_ok_iff.mpr ⟨l, found, within, rfl⟩⟩
  · rintro ⟨n, resolved⟩
    obtain ⟨l, found, within, _⟩ := resolve_eq_ok_iff.mp resolved
    exact ⟨l, found, within⟩

theorem reports_of_error {flaw : RangeFlaw} (refused : offsetOf t p = .error flaw) :
    Reports t p flaw := by
  rcases resolve_eq_error_iff.mp refused with ⟨outside, rfl⟩ | ⟨l, found, past, rfl⟩
  · exact .line outside rfl rfl rfl rfl
  · exact .character found past rfl rfl rfl rfl

theorem Reports.reason_eq {flaw : RangeFlaw} (reported : Reports t p flaw) :
    flaw.reason = "line" ∨ flaw.reason = "character" := by
  cases reported with
  | line outside reason limit place numbers => exact .inl reason
  | character found past reason limit place numbers => exact .inr reason

theorem Reports.ofRange_eq {flaw : RangeFlaw} (reported : Reports t p flaw) :
    Failure.ofRange flaw =
      if flaw.numbers.any Json.isLong then .mishap .longNumber else .problem (.range flaw) := by
  apply Failure.ofRange_eq
  · rintro rfl
    rcases reported.reason_eq with reason | reason <;> exact absurd reason (by decide)
  · rcases reported.reason_eq with reason | reason <;> rw [reason] <;> decide

theorem Reports.mem_numbers {flaw : RangeFlaw} {n : Int} (reported : Reports t p flaw)
    (said : n ∈ flaw.numbers) : n ∈ p.numbers := by
  cases reported with
  | line outside reason limit place numbers =>
    rw [numbers] at said
    exact List.mem_cons.mpr (.inl (List.mem_singleton.mp said))
  | character found past reason limit place numbers => rwa [numbers] at said

end Text

namespace Edit

open Text

variable {t u : List Char} {e : Edit}

theorem apply_of_ok {start stop : Nat} (first : offsetOf t e.range.start = .ok start)
    (second : offsetOf t e.range.stop = .ok stop) :
    e.apply t = .ok (t.take start ++ e.replacement ++ t.drop stop) := by
  have ordered := offset_le_of_le e.range.start_le_stop first second
  have inside := offset_le_length second
  simp only [apply, offsetOf] at first second ⊢
  rw [first, second]
  simp only [bind, Except.bind, if_neg (Nat.not_lt_of_le ordered),
    if_neg (Nat.not_lt_of_le inside)]
  rfl

theorem apply_of_start_error {flaw : RangeFlaw} (first : offsetOf t e.range.start = .error flaw) :
    e.apply t = .error flaw := by
  simp only [apply, offsetOf] at first ⊢
  rw [first]
  rfl

theorem apply_of_stop_error {start : Nat} {flaw : RangeFlaw}
    (first : offsetOf t e.range.start = .ok start) (second : offsetOf t e.range.stop = .error flaw) :
    e.apply t = .error flaw := by
  simp only [apply, offsetOf] at first second ⊢
  rw [first, second]
  rfl

theorem apply_eq_ok_iff :
    e.apply t = .ok u ↔ ∃ start stop, offsetOf t e.range.start = .ok start ∧
      offsetOf t e.range.stop = .ok stop ∧ u = t.take start ++ e.replacement ++ t.drop stop := by
  constructor
  · intro applied
    cases first : offsetOf t e.range.start with
    | error flaw => cases (apply_of_start_error first).symm.trans applied
    | ok start =>
      cases second : offsetOf t e.range.stop with
      | error flaw => cases (apply_of_stop_error first second).symm.trans applied
      | ok stop =>
        have result := (apply_of_ok first second).symm.trans applied
        exact ⟨start, stop, rfl, rfl, (Except.ok.inj result).symm⟩
  · rintro ⟨start, stop, first, second, rfl⟩
    exact apply_of_ok first second

/-- An edit is refused for an end that is not in the text, the start being looked at first. -/
theorem reports_of_apply_error {flaw : RangeFlaw} (refused : e.apply t = .error flaw) :
    Reports t e.range.start flaw ∨ Admits t e.range.start ∧ Reports t e.range.stop flaw := by
  cases first : offsetOf t e.range.start with
  | error found =>
    obtain rfl := Except.error.inj ((apply_of_start_error first).symm.trans refused)
    exact .inl (reports_of_error first)
  | ok start =>
    refine .inr ⟨admits_iff.mpr ⟨start, first⟩, ?_⟩
    cases second : offsetOf t e.range.stop with
    | error found =>
      obtain rfl := Except.error.inj ((apply_of_stop_error first second).symm.trans refused)
      exact reports_of_error second
    | ok stop => cases (apply_of_ok first second).symm.trans refused

/-- What is raised for an edit that is refused. -/
theorem ofRange_of_apply_error {flaw : RangeFlaw} (refused : e.apply t = .error flaw) :
    (Failure.ofRange flaw =
      if flaw.numbers.any Json.isLong then .mishap .longNumber else .problem (.range flaw)) ∧
    ∀ n ∈ flaw.numbers, n ∈ e.range.numbers := by
  rw [Range.numbers]
  rcases reports_of_apply_error refused with first | ⟨_, second⟩
  · exact ⟨first.ofRange_eq, fun n said => List.mem_append_left _ (first.mem_numbers said)⟩
  · exact ⟨second.ofRange_eq, fun n said => List.mem_append_right _ (second.mem_numbers said)⟩

/-- An edit is made exactly when both ends of its range are in the text, and it replaces what stands
between their offsets; otherwise the first end that is outside is told, if the numbers of the range
can be. Ranges that are in order and in the text give offsets that are, so no edit is refused for
another reason. -/
theorem apply_outcome (t : List Char) (e : Edit) :
    ((∃ u, e.apply t = .ok u) ↔ Admits t e.range.start ∧ Admits t e.range.stop) ∧
    (∀ u, e.apply t = .ok u → ∃ start stop, offsetOf t e.range.start = .ok start ∧
      offsetOf t e.range.stop = .ok stop ∧ start ≤ stop ∧ stop ≤ t.length ∧
      u = t.take start ++ e.replacement ++ t.drop stop) ∧
    (∀ flaw, e.apply t = .error flaw →
      (Reports t e.range.start flaw ∨ Admits t e.range.start ∧ Reports t e.range.stop flaw) ∧
      (Failure.ofRange flaw =
        if flaw.numbers.any Json.isLong then .mishap .longNumber else .problem (.range flaw)) ∧
      ((∀ n ∈ e.range.numbers, Json.isLong n = false) →
        Failure.ofRange flaw = .problem (.range flaw))) ∧
    (∀ p q a b, p ≤ q → offsetOf t p = .ok a → offsetOf t q = .ok b → a ≤ b) ∧
    (∀ flaw, e.apply t = .error flaw → flaw.reason ≠ "order" ∧ flaw.reason ≠ "overflow") := by
  refine ⟨?_, ?_, ?_, ?_, ?_⟩
  · rw [admits_iff, admits_iff]
    constructor
    · rintro ⟨u, applied⟩
      obtain ⟨start, stop, first, second, _⟩ := apply_eq_ok_iff.mp applied
      exact ⟨⟨start, first⟩, stop, second⟩
    · rintro ⟨⟨start, first⟩, stop, second⟩
      exact ⟨_, apply_of_ok first second⟩
  · intro u applied
    obtain ⟨start, stop, first, second, result⟩ := apply_eq_ok_iff.mp applied
    exact ⟨start, stop, first, second, offset_le_of_le e.range.start_le_stop first second,
      offset_le_length second, result⟩
  · intro flaw refused
    obtain ⟨raised, given⟩ := ofRange_of_apply_error refused
    refine ⟨reports_of_apply_error refused, raised, fun short => ?_⟩
    have told := flaw.any_isLong_eq_false fun n said => short n (given n said)
    rw [raised, told]
    rfl
  · intro p q a b ordered first second
    exact offset_le_of_le ordered first second
  · intro flaw refused
    have named : flaw.reason = "line" ∨ flaw.reason = "character" := by
      rcases reports_of_apply_error refused with first | ⟨_, second⟩
      · exact first.reason_eq
      · exact second.reason_eq
    rcases named with reason | reason <;> rw [reason] <;> decide

/-- Replacing a break of two code points, from before it to the caret behind it; and a range whose
start is a column too far, whatever its end. -/
theorem apply_outcome_at_break :
    (∃ start stop, offsetOf ['a', '\r', '\n', 'b'] ⟨0, 1⟩ = .ok start ∧
      offsetOf ['a', '\r', '\n', 'b'] ⟨0, 3⟩ = .ok stop ∧ start ≤ stop ∧ stop ≤ 4 ∧
      ['a', ' ', 'b'] = ['a', '\r', '\n', 'b'].take start ++ [' '] ++
        ['a', '\r', '\n', 'b'].drop stop) ∧
    (Reports ['a', '\n', 'b'] ⟨0, 3⟩ (.pastLine ⟨0, 3⟩ 2) ∨
      Admits ['a', '\n', 'b'] ⟨0, 3⟩ ∧ Reports ['a', '\n', 'b'] ⟨7, 0⟩ (.pastLine ⟨0, 3⟩ 2)) :=
  ⟨(apply_outcome _ ⟨⟨⟨0, 1⟩, ⟨0, 3⟩, by decide⟩, [' ']⟩).2.1 _ rfl,
    ((apply_outcome _ ⟨⟨⟨0, 3⟩, ⟨7, 0⟩, by decide⟩, []⟩).2.2.1 _ rfl).1⟩

/-- A line whose number has one digit more than can be told is outside the text, and no problem
says so. -/
theorem apply_untold_at_long_line :
    let far : Position := ⟨Nat.pow 10 Json.maxDigits, 0⟩
    let e : Edit := ⟨⟨far, far, Position.le_iff.mpr (.inr ⟨rfl, Nat.le_refl _⟩)⟩, []⟩
    e.apply [] = .error (.noLine far 1) ∧
      Failure.ofRange (.noLine far 1) = .mishap .longNumber := by
  intro far e
  have outside : lineCount [] ≤ far.line := by decide +kernel
  refine ⟨apply_of_start_error (resolve_eq_error_iff.mpr (.inl ⟨outside, rfl⟩)), ?_⟩
  decide +kernel

end Edit

end OpenDocs
