import OpenDocs.Failure
import OpenDocs.Raw
import OpenDocs.Proofs.Steps

/-!
# Spellings of a range

Four numbers can be written as a range in many ways: one after the other, as two positions, or under
the names of the ends, and each position as a pair or under the names of its numbers. All of them
mean the same, and nothing else is accepted as a range. What is refused is told, but for sequences
that cannot be listed and for numbers that are too long.
-/

namespace OpenDocs.Raw

/-- An integer, or what stands for one where an index is asked for; a truth value is neither. -/
inductive Numeral : Raw → Int → Prop
  | int (n : Int) : Numeral (.int n) n
  | ordinal (n : Int) : Numeral (.ordinal n) n

inductive Sequence : Raw → List Raw → Prop
  | list (items : List Raw) : Sequence (.list items) items
  | tuple (items : List Raw) : Sequence (.tuple items) items

/-- What has parts under names: a record or an object. -/
inductive Named : Raw → List (String × Raw) → Prop
  | record (fields : List (String × Raw)) : Named (.record fields) fields
  | object (attributes : List (String × Raw)) : Named (.object attributes) attributes

/-- The ways to write a line and a character as a position. -/
inductive SpellsPosition : Raw → Int → Int → Prop
  | position (p : Position) : SpellsPosition (.position p) p.line p.character
  | pair {raw a b : Raw} {line character : Int} : Sequence raw [a, b] → Numeral a line →
      Numeral b character → SpellsPosition raw line character
  | named {raw a b : Raw} {parts : List (String × Raw)} {line character : Int} : Named raw parts →
      parts.lookup "line" = some a → parts.lookup "character" = some b → Numeral a line →
      Numeral b character → SpellsPosition raw line character

/-- Four numbers that are given for the ends of a range. -/
structure Bounds where
  startLine : Int
  startCharacter : Int
  stopLine : Int
  stopCharacter : Int
  deriving DecidableEq

namespace Bounds

def ofRange (r : Range) : Bounds :=
  ⟨r.start.line, r.start.character, r.stop.line, r.stop.character⟩

/-- The numbers in the order in which they are looked at. -/
def numbers (b : Bounds) : List (Coordinate × Int) :=
  [(.line, b.startLine), (.character, b.startCharacter), (.line, b.stopLine),
    (.character, b.stopCharacter)]

def Ordered (b : Bounds) : Prop :=
  b.startLine < b.stopLine ∨ b.startLine = b.stopLine ∧ b.startCharacter ≤ b.stopCharacter

/-- What four numbers mean. They are a range if none is negative and the end is not before the
start; otherwise the first negative number is told, or else the start. -/
inductive Means (b : Bounds) : Except RangeFlaw Range → Prop
  | range {r : Range} : (∀ x ∈ b.numbers, 0 ≤ x.2) → b.Ordered → ofRange r = b → b.Means (.ok r)
  | negative {flaw : RangeFlaw} {c : Coordinate} {n : Int} :
      b.numbers.find? (·.2 < 0) = some (c, n) → flaw = .negative c n → flaw.reason = "negative" →
      b.Means (.error flaw)
  | inverted {flaw : RangeFlaw} : (∀ x ∈ b.numbers, 0 ≤ x.2) → ¬ b.Ordered →
      flaw.reason = "order" → flaw.place? = some (b.startLine, b.startCharacter) →
      flaw.numbers = b.numbers.map (·.2) → b.Means (.error flaw)

end Bounds

/-- The ways to write four numbers as a range. -/
inductive SpellsRange : Raw → Bounds → Prop
  | range (r : Range) : SpellsRange (.range r) (.ofRange r)
  | numbers {raw a b c d : Raw} {bounds : Bounds} : Sequence raw [a, b, c, d] →
      Numeral a bounds.startLine → Numeral b bounds.startCharacter →
      Numeral c bounds.stopLine → Numeral d bounds.stopCharacter → SpellsRange raw bounds
  | pair {raw p q : Raw} {bounds : Bounds} : Sequence raw [p, q] →
      SpellsPosition p bounds.startLine bounds.startCharacter →
      SpellsPosition q bounds.stopLine bounds.stopCharacter → SpellsRange raw bounds
  | named {raw p q : Raw} {parts : List (String × Raw)} {bounds : Bounds} : Named raw parts →
      parts.lookup "start" = some p → parts.lookup "end" = some q →
      SpellsPosition p bounds.startLine bounds.startCharacter →
      SpellsPosition q bounds.stopLine bounds.stopCharacter → SpellsRange raw bounds

/-! ### Numbers -/

theorem lookup_of_ne_null {parts : List (String × Raw)} {name : String}
    (present : (parts.lookup name).getD null ≠ null) :
    parts.lookup name = some ((parts.lookup name).getD null) := by
  cases found : parts.lookup name with
  | none => simp [found] at present
  | some v => rfl

theorem lookup_of_isNull {parts : List (String × Raw)} {name : String}
    (present : ((object parts).member name).isNull = false) :
    parts.lookup name = some ((object parts).member name) := by
  refine lookup_of_ne_null fun none => ?_
  rw [member, none] at present
  cases present

theorem Numeral.ne_null {raw : Raw} {n : Int} (spelled : Numeral raw n) : raw ≠ .null := by
  cases spelled <;> simp

theorem Numeral.coordinate_eq {raw : Raw} {n : Int} (spelled : Numeral raw n) (c : Coordinate) :
    raw.coordinate c = (Raw.int n).coordinate c := by
  cases spelled with
  | int => rfl
  | ordinal => cases n <;> rfl

theorem coordinate_eq_ok_iff {c : Coordinate} {raw : Raw} {n : Nat} :
    raw.coordinate c = .ok n ↔ Numeral raw n := by
  constructor
  · intro read
    cases raw with
    | int m | ordinal m =>
      cases m with
      | negSucc m => simp [coordinate] at read
      | ofNat m =>
        simp only [coordinate, Except.ok.injEq] at read
        subst read
        constructor
    | _ => simp [coordinate] at read
  · intro spelled
    cases spelled <;> rfl

theorem coordinate_of_nonneg {c : Coordinate} {n : Int} (nonneg : 0 ≤ n) :
    (Raw.int n).coordinate c = .ok n.toNat := by
  obtain ⟨m, rfl⟩ := Int.eq_ofNat_of_zero_le nonneg
  rfl

theorem coordinate_of_neg {c : Coordinate} {n : Int} (negative : n < 0) :
    (Raw.int n).coordinate c = .error (.negative c n) := by
  obtain ⟨m, rfl⟩ := Int.eq_negSucc_of_lt_zero negative
  rfl

theorem toRange_of_neg {n : Int} (negative : n < 0) {b c d : Raw} :
    (Raw.list [.int n, b, c, d]).toRange = .error (.negative .line n) := by
  simp only [toRange, sequence?, positionOf, coordinate_of_neg negative, bind, Except.bind]

/-! ### Positions -/

theorem positionOf_eq {a b : Raw} {line character : Int} (first : Numeral a line)
    (second : Numeral b character) :
    positionOf a b = positionOf (.int line) (.int character) := by
  simp only [positionOf, first.coordinate_eq, second.coordinate_eq]

theorem positionOf_eq_ok_iff {a b : Raw} {p : Position} :
    positionOf a b = .ok p ↔ Numeral a p.line ∧ Numeral b p.character := by
  rw [← coordinate_eq_ok_iff (c := .line), ← coordinate_eq_ok_iff (c := .character)]
  simp only [positionOf, bind_eq_ok_iff]
  constructor
  · rintro ⟨line, first, character, second, ⟨⟩⟩
    exact ⟨first, second⟩
  · rintro ⟨first, second⟩
    exact ⟨p.line, first, p.character, second, rfl⟩

theorem SpellsPosition.toPosition_eq {raw : Raw} {line character : Int}
    (spelled : SpellsPosition raw line character) :
    raw.toPosition = positionOf (.int line) (.int character) := by
  cases spelled with
  | position p => rfl
  | pair sequence first second =>
    rw [← positionOf_eq first second]
    cases sequence <;> rfl
  | named parts found found' first second =>
    rw [← positionOf_eq first second]
    cases parts with
    | record => simp [toPosition, found, found']
    | object =>
      have present := first.ne_null
      have present' := second.ne_null
      simp_all [toPosition, sequence?, member, isNull]

theorem toPosition_eq_ok_iff {raw : Raw} {p : Position} :
    raw.toPosition = .ok p ↔ SpellsPosition raw p.line p.character := by
  constructor
  · intro read
    cases raw with
    | position q =>
      obtain rfl := Except.ok.inj read
      constructor
    | list items | tuple items =>
      simp only [toPosition, sequence?] at read
      split at read
      · next line character same =>
        obtain rfl := Option.some.inj same
        obtain ⟨first, second⟩ := positionOf_eq_ok_iff.mp read
        exact .pair (by constructor) first second
      · cases read
      · cases read
    | record fields =>
      simp only [toPosition] at read
      split at read
      · next line character found found' =>
        obtain ⟨first, second⟩ := positionOf_eq_ok_iff.mp read
        exact .named (.record fields) found found' first second
      · cases read
    | object attributes =>
      change (if _ then _ else positionOf _ _) = _ at read
      split at read
      · cases read
      · obtain ⟨first, second⟩ := positionOf_eq_ok_iff.mp read
        exact .named (.object attributes) (lookup_of_ne_null first.ne_null)
          (lookup_of_ne_null second.ne_null) first second
    | range r =>
      -- Its two positions are a pair, but no numbers.
      cases positionOf_eq_ok_iff.mp read |>.1
    | _ => cases read
  · intro spelled
    rw [spelled.toPosition_eq]
    exact positionOf_eq_ok_iff.mpr ⟨.int _, .int _⟩

/-! ### Ranges -/

theorem makeBetween_eq_ok_iff {first second : Except RangeFlaw Position} {r : Range} :
    (do let start ← first; let stop ← second; Range.make start stop) = .ok r ↔
      first = .ok r.start ∧ second = .ok r.stop := by
  simp only [bind_eq_ok_iff, Range.make_eq_ok_iff]
  constructor
  · rintro ⟨start, starts, stop, stops, _, rfl, rfl⟩
    exact ⟨starts, stops⟩
  · rintro ⟨starts, stops⟩
    exact ⟨r.start, starts, r.stop, stops, r.start_le_stop, rfl, rfl⟩

theorem rangeOf_eq_ok_iff {p q : Raw} {r : Range} :
    rangeOf p q = .ok r ↔ SpellsPosition p r.start.line r.start.character ∧
      SpellsPosition q r.stop.line r.stop.character := by
  rw [rangeOf, makeBetween_eq_ok_iff, toPosition_eq_ok_iff, toPosition_eq_ok_iff]

/-- The range of four numbers, read in their order. -/
def Bounds.toRange (b : Bounds) : Except RangeFlaw Range := do
  let start ← positionOf (.int b.startLine) (.int b.startCharacter)
  let stop ← positionOf (.int b.stopLine) (.int b.stopCharacter)
  Range.make start stop

theorem Bounds.toRange_ofRange (r : Range) : (ofRange r).toRange = .ok r :=
  Range.make_eq_ok_iff.mpr ⟨r.start_le_stop, rfl, rfl⟩

theorem SpellsPosition.rangeOf_eq {p q : Raw} {b : Bounds}
    (first : SpellsPosition p b.startLine b.startCharacter)
    (second : SpellsPosition q b.stopLine b.stopCharacter) : rangeOf p q = b.toRange := by
  simp only [rangeOf, Bounds.toRange, first.toPosition_eq, second.toPosition_eq]

theorem SpellsPosition.ne_null {raw : Raw} {line character : Int}
    (spelled : SpellsPosition raw line character) : raw ≠ .null := by
  rintro rfl
  cases spelled with
  | pair sequence => cases sequence
  | named parts => cases parts

theorem SpellsRange.toRange_eq {raw : Raw} {b : Bounds} (spelled : SpellsRange raw b) :
    raw.toRange = b.toRange := by
  cases spelled with
  | range r => exact (Bounds.toRange_ofRange r).symm
  | numbers sequence startLine startCharacter stopLine stopCharacter =>
    rw [Bounds.toRange, ← positionOf_eq startLine startCharacter,
      ← positionOf_eq stopLine stopCharacter]
    cases sequence <;> rfl
  | pair sequence first second =>
    rw [← first.rangeOf_eq second]
    cases sequence <;> rfl
  | named parts found found' first second =>
    rw [← first.rangeOf_eq second]
    cases parts with
    | record => simp [toRange, found, found']
    | object =>
      have present := first.ne_null
      have present' := second.ne_null
      simp_all [toRange, sequence?, member, isNull]

theorem toRange_eq_ok_iff {raw : Raw} {r : Range} :
    raw.toRange = .ok r ↔ SpellsRange raw (.ofRange r) := by
  constructor
  · intro read
    cases raw with
    | range q =>
      obtain rfl := Except.ok.inj read
      constructor
    | list items | tuple items =>
      simp only [toRange, sequence?] at read
      split at read
      · next startLine startCharacter stopLine stopCharacter same =>
        obtain rfl := Option.some.inj same
        obtain ⟨first, second⟩ := makeBetween_eq_ok_iff.mp read
        obtain ⟨startLine, startCharacter⟩ := positionOf_eq_ok_iff.mp first
        obtain ⟨stopLine, stopCharacter⟩ := positionOf_eq_ok_iff.mp second
        exact .numbers (by constructor) startLine startCharacter stopLine stopCharacter
      · next p q same =>
        obtain rfl := Option.some.inj same
        obtain ⟨first, second⟩ := rangeOf_eq_ok_iff.mp read
        exact .pair (by constructor) first second
      · cases read
      · cases read
    | record fields =>
      simp only [toRange] at read
      split at read
      · next p q found found' =>
        obtain ⟨first, second⟩ := rangeOf_eq_ok_iff.mp read
        exact .named (.record fields) found found' first second
      · cases read
    | object attributes =>
      change (if _ then _ else rangeOf _ _) = _ at read
      split at read
      · cases read
      · obtain ⟨first, second⟩ := rangeOf_eq_ok_iff.mp read
        exact .named (.object attributes) (lookup_of_ne_null first.ne_null)
          (lookup_of_ne_null second.ne_null) first second
    | _ => cases read
  · intro spelled
    rw [spelled.toRange_eq, Bounds.toRange_ofRange]

theorem spellsRange_report (r : Range) : SpellsRange r.report.toRaw (.ofRange r) := by
  have position (p : Position) : SpellsPosition p.report.toRaw p.line p.character :=
    .named (.record _) rfl rfl (.int _) (.int _)
  exact .named (.record _) rfl rfl (position r.start) (position r.stop)

theorem Bounds.means_of_negative {b : Bounds} {c : Coordinate} {n : Int}
    (first : b.numbers.find? (·.2 < 0) = some (c, n))
    (told : b.toRange = .error (.negative c n)) : b.Means b.toRange := by
  rw [told]
  exact .negative first rfl rfl

theorem Bounds.means_of_nonneg {start stop : Position} {b : Bounds}
    (starts : b.startLine = start.line ∧ b.startCharacter = start.character)
    (stops : b.stopLine = stop.line ∧ b.stopCharacter = stop.character) :
    b.Means (Range.make start stop) := by
  obtain ⟨startLine, startCharacter, stopLine, stopCharacter⟩ := b
  simp only at starts stops
  obtain ⟨rfl, rfl⟩ := starts
  obtain ⟨rfl, rfl⟩ := stops
  unfold Range.make
  split
  · next inverted =>
    rw [Position.lt_iff] at inverted
    refine .inverted (by simp [numbers]) ?_ rfl rfl rfl
    simp only [Ordered]
    omega
  · next apart =>
    have ordered := Position.le_of_not_lt apart
    rw [Position.le_iff] at ordered
    refine .range (by simp [numbers]) ?_ rfl
    simp only [Ordered]
    omega

/-- The numbers are looked at one by one, and then the two ends together. -/
theorem Bounds.means_toRange (b : Bounds) : b.Means b.toRange := by
  by_cases first : b.startLine < 0
  · apply means_of_negative (c := .line) (n := b.startLine)
    · simp [numbers, first]
    · simp [toRange, positionOf, coordinate_of_neg first, bind, Except.bind]
  have startLine := coordinate_of_nonneg (c := .line) (Int.not_lt.mp first)
  by_cases second : b.startCharacter < 0
  · apply means_of_negative (c := .character) (n := b.startCharacter)
    · simp [numbers, first, second]
    · simp [toRange, positionOf, startLine, coordinate_of_neg second, bind, Except.bind]
  have startCharacter := coordinate_of_nonneg (c := .character) (Int.not_lt.mp second)
  by_cases third : b.stopLine < 0
  · apply means_of_negative (c := .line) (n := b.stopLine)
    · simp [numbers, first, second, third]
    · simp [toRange, positionOf, startLine, startCharacter, coordinate_of_neg third, bind,
        Except.bind, pure, Except.pure]
  have stopLine := coordinate_of_nonneg (c := .line) (Int.not_lt.mp third)
  by_cases fourth : b.stopCharacter < 0
  · apply means_of_negative (c := .character) (n := b.stopCharacter)
    · simp [numbers, first, second, third, fourth]
    · simp [toRange, positionOf, startLine, startCharacter, stopLine, coordinate_of_neg fourth,
        bind, Except.bind, pure, Except.pure]
  have stopCharacter := coordinate_of_nonneg (c := .character) (Int.not_lt.mp fourth)
  simp only [toRange, positionOf, startLine, startCharacter, stopLine, stopCharacter, bind,
    Except.bind, pure, Except.pure]
  apply means_of_nonneg <;> simp only <;> omega

/-! ### Values of any shape -/

/-- A sequence that cannot be listed. -/
inductive Unlistable : Raw → Prop
  | endless (first : Int) : Unlistable (.endless first)
  | broken : Unlistable .brokenList

/-- The value is read as an end of the range. -/
inductive Ends : Raw → Raw → Prop
  | first {raw p q : Raw} : Sequence raw [p, q] → Ends raw p
  | second {raw p q : Raw} : Sequence raw [p, q] → Ends raw q
  | start {raw p : Raw} {parts : List (String × Raw)} : Named raw parts →
      parts.lookup "start" = some p → Ends raw p
  | stop {raw p : Raw} {parts : List (String × Raw)} : Named raw parts →
      parts.lookup "end" = some p → Ends raw p

/-- How a value is refused: for one of the reasons, which is told unless a number in it is too long,
or because of a sequence that cannot be listed. -/
inductive Refusal (reasons : List String) (unlistable : Prop) (flaw : RangeFlaw) : Prop
  | told : flaw.reason ∈ reasons → (∀ n ∈ flaw.numbers, Json.isLong n = false) →
      flaw.mishap? = none → Refusal reasons unlistable flaw
  | long {n : Int} : flaw.reason ∈ reasons → n ∈ flaw.numbers → Json.isLong n = true →
      flaw.mishap? = some .longNumber → Refusal reasons unlistable flaw
  | unlisted : unlistable → flaw = .unlisted → Refusal reasons unlistable flaw

section

variable {reasons others : List String} {unlistable wider : Prop} {flaw : RangeFlaw}

theorem Refusal.mono (refused : Refusal reasons unlistable flaw) (more : reasons ⊆ others)
    (weaker : unlistable → wider) : Refusal others wider flaw := by
  cases refused with
  | told kind short none => exact .told (more kind) short none
  | long kind said long mishap => exact .long (more kind) said long mishap
  | unlisted held gone => exact .unlisted (weaker held) gone

theorem refusal_of_reason (kind : flaw.reason ∈ reasons) (gone : flaw ≠ .unlisted)
    (fit : flaw.reason ≠ "overflow") : Refusal reasons unlistable flaw := by
  have mishap := flaw.mishap?_eq gone fit
  cases long : flaw.numbers.any Json.isLong with
  | true =>
    rw [long] at mishap
    obtain ⟨n, said, long⟩ := List.any_eq_true.mp long
    exact .long kind said long mishap
  | false =>
    rw [long] at mishap
    refine .told kind (fun n said => ?_) mishap
    simpa using List.any_eq_false.mp long n said

theorem refusal_of_invalid (kind : flaw.reason = "invalid") (gone : flaw ≠ .unlisted) :
    Refusal ("invalid" :: reasons) unlistable flaw :=
  refusal_of_reason (by simp [kind]) gone (by simp [kind])

theorem Refusal.ofRange_eq (refused : Refusal reasons False flaw) : Failure.ofRange flaw =
    if flaw.numbers.any Json.isLong then .mishap .longNumber else .problem (.range flaw) := by
  cases refused with
  | told kind short none =>
    rw [flaw.any_isLong_eq_false short]
    exact Problem.raised_of_none none
  | long kind said long mishap =>
    rw [if_pos (List.any_eq_true.mpr ⟨_, said, long⟩)]
    exact Problem.raised_of_mishap mishap
  | unlisted held gone => exact held.elim

theorem refusal_of_coordinate_error {raw : Raw} {c : Coordinate}
    (refused : raw.coordinate c = .error flaw) :
    Refusal ["invalid", "negative"] unlistable flaw := by
  cases raw with
  | int n | ordinal n =>
    cases n with
    | ofNat n => cases refused
    | negSucc n =>
      cases refused
      exact refusal_of_reason (by simp [RangeFlaw.reason]) nofun (by simp [RangeFlaw.reason])
  | _ =>
    cases refused
    exact refusal_of_invalid rfl nofun

theorem refusal_of_positionOf_error {a b : Raw} (refused : positionOf a b = .error flaw) :
    Refusal ["invalid", "negative"] unlistable flaw := by
  rcases bind_eq_error_iff.mp refused with first | ⟨line, _, behind⟩
  · exact refusal_of_coordinate_error first
  rcases bind_eq_error_iff.mp behind with second | ⟨character, _, made⟩
  · exact refusal_of_coordinate_error second
  · cases made

theorem refusal_of_toPosition_error {raw : Raw} (refused : raw.toPosition = .error flaw) :
    Refusal ["invalid", "negative"] (Unlistable raw) flaw := by
  cases raw with
  | position => cases refused
  | record fields =>
    rw [toPosition] at refused
    split at refused
    · exact refusal_of_positionOf_error refused
    · cases refused
      exact refusal_of_invalid rfl nofun
  | endless first =>
    cases refused
    exact .unlisted (.endless first) rfl
  | brokenList =>
    cases refused
    exact .unlisted .broken rfl
  | list items | tuple items =>
    simp only [toPosition, sequence?] at refused
    split at refused
    · exact refusal_of_positionOf_error refused
    · cases refused
      exact refusal_of_invalid rfl nofun
    · cases refused
      exact refusal_of_invalid rfl nofun
  | range r => exact refusal_of_positionOf_error refused
  | object attributes =>
    change (if _ then _ else positionOf _ _) = _ at refused
    split at refused
    · cases refused
      exact refusal_of_invalid rfl nofun
    · exact refusal_of_positionOf_error refused
  | _ =>
    cases refused
    exact refusal_of_invalid rfl nofun

theorem error_of_makeBetween {first second : Except RangeFlaw Position}
    (refused : (do let start ← first; let stop ← second; Range.make start stop) = .error flaw) :
    first = .error flaw ∨ second = .error flaw ∨ ∃ start stop, flaw = .inverted start stop := by
  rcases bind_eq_error_iff.mp refused with starts | ⟨start, _, behind⟩
  · exact .inl starts
  rcases bind_eq_error_iff.mp behind with stops | ⟨stop, _, made⟩
  · exact .inr (.inl stops)
  rw [Range.make] at made
  split at made
  · cases made
    exact .inr (.inr ⟨_, _, rfl⟩)
  · cases made

theorem refusal_of_inverted {start stop : Position} :
    Refusal ["invalid", "negative", "order"] unlistable (.inverted start stop) :=
  refusal_of_reason (by simp [RangeFlaw.reason]) nofun (by simp [RangeFlaw.reason])

theorem refusal_of_rangeOf_error {raw p q : Raw} (first : Ends raw p) (second : Ends raw q)
    (refused : rangeOf p q = .error flaw) :
    Refusal ["invalid", "negative", "order"] (∃ part, Ends raw part ∧ Unlistable part) flaw := by
  rcases error_of_makeBetween refused with starts | stops | ⟨start, stop, rfl⟩
  · exact (refusal_of_toPosition_error starts).mono (by simp) fun bad => ⟨p, first, bad⟩
  · exact (refusal_of_toPosition_error stops).mono (by simp) fun bad => ⟨q, second, bad⟩
  · exact refusal_of_inverted

theorem refusal_of_numbers_error {a b c d : Raw}
    (refused : (do
      let start ← positionOf a b
      let stop ← positionOf c d
      Range.make start stop) = .error flaw) :
    Refusal ["invalid", "negative", "order"] unlistable flaw := by
  have unread {a b : Raw} (refused : positionOf a b = .error flaw) :
      Refusal ["invalid", "negative", "order"] unlistable flaw :=
    (refusal_of_positionOf_error refused).mono (by simp) False.elim
  rcases error_of_makeBetween refused with starts | stops | ⟨start, stop, rfl⟩
  · exact unread starts
  · exact unread stops
  · exact refusal_of_inverted

end

/-- A value is refused as a range because of itself or of one of its ends. -/
theorem refusal_of_toRange_error {raw : Raw} {flaw : RangeFlaw}
    (refused : raw.toRange = .error flaw) :
    Refusal ["invalid", "negative", "order"]
      (Unlistable raw ∨ ∃ part, Ends raw part ∧ Unlistable part) flaw := by
  cases raw with
  | range => cases refused
  | null =>
    cases refused
    exact refusal_of_invalid rfl nofun
  | record fields =>
    rw [toRange] at refused
    split at refused
    · next p q found found' =>
      exact (refusal_of_rangeOf_error (.start (.record _) found) (.stop (.record _) found')
        refused).mono (by simp) .inr
    · cases refused
      exact refusal_of_invalid rfl nofun
  | endless first =>
    cases refused
    exact .unlisted (.inl (.endless first)) rfl
  | brokenList =>
    cases refused
    exact .unlisted (.inl .broken) rfl
  | list items | tuple items =>
    simp only [toRange, sequence?] at refused
    split at refused
    · exact refusal_of_numbers_error refused
    · next p q same =>
      obtain rfl := Option.some.inj same
      exact (refusal_of_rangeOf_error (.first (by constructor)) (.second (by constructor))
        refused).mono (by simp) .inr
    · cases refused
      exact refusal_of_invalid rfl nofun
    · cases refused
      exact refusal_of_invalid rfl nofun
  | object attributes =>
    change (if _ then _ else rangeOf _ _) = _ at refused
    split at refused
    · cases refused
      exact refusal_of_invalid rfl nofun
    · next present =>
      simp only [Bool.or_eq_true, not_or, Bool.not_eq_true] at present
      exact (refusal_of_rangeOf_error (.start (.object _) (lookup_of_isNull present.1))
        (.stop (.object _) (lookup_of_isNull present.2)) refused).mono (by simp) .inr
  | _ =>
    cases refused
    exact refusal_of_invalid rfl nofun

/-- However four numbers are written as a range, they mean the same. A value of any shape is a range
exactly if it writes the numbers of that range, which are none of them negative and in order; it is
refused otherwise, as it is as a position that it does not write. What is raised is a problem with
one of the reasons, unless a number is too long for it or a sequence cannot be listed. -/
theorem toRange_outcome (raw : Raw) :
    (∀ b, SpellsRange raw b → b.Means raw.toRange ∧
      ∀ other, SpellsRange other b → other.toRange = raw.toRange) ∧
    (∀ r : Range, r.report.toRaw.toRange = .ok r) ∧
    (∀ r, raw.toRange = .ok r ↔ SpellsRange raw (.ofRange r)) ∧
    (∀ p, raw.toPosition = .ok p ↔ SpellsPosition raw p.line p.character) ∧
    (∀ flaw, raw.toRange = .error flaw → Refusal ["invalid", "negative", "order"]
      (Unlistable raw ∨ ∃ part, Ends raw part ∧ Unlistable part) flaw) ∧
    (∀ flaw, raw.toPosition = .error flaw →
      Refusal ["invalid", "negative"] (Unlistable raw) flaw) := by
  refine ⟨fun b spelled => ⟨?_, fun other again => ?_⟩, fun r => ?_, fun r => ?_, fun p => ?_,
    fun flaw refused => ?_, fun flaw refused => ?_⟩
  · rw [spelled.toRange_eq]
    exact b.means_toRange
  · rw [spelled.toRange_eq, again.toRange_eq]
  · exact toRange_eq_ok_iff.mpr (spellsRange_report r)
  · exact toRange_eq_ok_iff
  · exact toPosition_eq_ok_iff
  · exact refusal_of_toRange_error refused
  · exact refusal_of_toPosition_error refused

/-- An object whose start is a pair and whose end is a record with a negative number is refused as
four numbers in a row are, and a truth value is no number. -/
theorem toRange_outcome_of_mixed_spellings :
    (Raw.list [.int 1, .int 0, .int 1, .int (-2)]).toRange =
      (Raw.object [("start", .tuple [.ordinal 1, .int 0]),
        ("end", .record [("line", .int 1), ("character", .int (-2))])]).toRange ∧
    ¬ ∃ p : Position, (Raw.list [.int 1, .bool true]).toPosition = .ok p := by
  constructor
  · have spelled : SpellsRange (.object [("start", .tuple [.ordinal 1, .int 0]),
        ("end", .record [("line", .int 1), ("character", .int (-2))])]) ⟨1, 0, 1, -2⟩ :=
      .named (.object _) rfl rfl (.pair (.tuple _) (.ordinal 1) (.int 0))
        (.named (.record _) rfl rfl (.int 1) (.int (-2)))
    exact ((toRange_outcome _).1 _ spelled).2 _
      (.numbers (.list _) (.int 1) (.int 0) (.int 1) (.int (-2)))
  · rintro ⟨p, read⟩
    cases (toRange_outcome _).2.2.2.1 p |>.mp read with
    | pair sequence first second =>
      cases sequence
      cases second
    | named parts => cases parts

/-- More numbers than can be listed, and a negative number with too many digits, are refused, but no
problem says so. -/
theorem toRange_untold :
    let long : Raw := .int (-(Nat.pow 10 Json.maxDigits))
    (Raw.endless 0).toPosition.mapError Failure.ofRange = .error (.mishap .unlisted) ∧
      (Raw.list [long, .int 0, .int 0, .int 0]).toRange.mapError Failure.ofRange =
        .error (.mishap .longNumber) := by
  intro long
  have below : -(Nat.pow 10 Json.maxDigits : Int) < 0 := by decide +kernel
  have raised : Failure.ofRange (.negative .line (-(Nat.pow 10 Json.maxDigits))) =
      .mishap .longNumber := by
    decide +kernel
  refine ⟨rfl, ?_⟩
  rw [toRange_of_neg below]
  exact congrArg Except.error raised

end OpenDocs.Raw
