/-!
# Positions and ranges of a document

A position is a zero-based line and a zero-based code point column, ordered by line first.
A range runs from a position to one that is not before it.
-/

namespace OpenDocs

@[ext] structure Position where
  line : Nat
  character : Nat
  deriving DecidableEq, Inhabited

namespace Position

instance : LT Position :=
  ⟨fun p q => p.line < q.line ∨ p.line = q.line ∧ p.character < q.character⟩

instance : LE Position :=
  ⟨fun p q => p.line < q.line ∨ p.line = q.line ∧ p.character ≤ q.character⟩

theorem lt_iff {p q : Position} :
    p < q ↔ p.line < q.line ∨ p.line = q.line ∧ p.character < q.character := Iff.rfl

theorem le_iff {p q : Position} :
    p ≤ q ↔ p.line < q.line ∨ p.line = q.line ∧ p.character ≤ q.character := Iff.rfl

instance (p q : Position) : Decidable (p < q) := decidable_of_iff _ lt_iff.symm

instance (p q : Position) : Decidable (p ≤ q) := decidable_of_iff _ le_iff.symm

theorem le_of_not_lt {p q : Position} (h : ¬ q < p) : p ≤ q := by
  rw [lt_iff] at h
  rw [le_iff]
  omega

theorem lt_of_not_le {p q : Position} (h : ¬ q ≤ p) : p < q := by
  rw [le_iff] at h
  rw [lt_iff]
  omega

theorem le_trans {p q r : Position} (first : p ≤ q) (second : q ≤ r) : p ≤ r := by
  rw [le_iff] at first second ⊢
  omega

theorem le_antisymm {p q : Position} (first : p ≤ q) (second : q ≤ p) : p = q := by
  rw [le_iff] at first second
  apply Position.ext <;> omega

def numbers (p : Position) : List Int := [p.line, p.character]

def sort (ps : List Position) : List Position := ps.mergeSort (fun p q => decide (p ≤ q))

end Position

/-- A half-open span; the caret is the span whose ends agree. -/
structure Range where
  start : Position
  stop : Position
  start_le_stop : start ≤ stop
  deriving DecidableEq

namespace Range

def ends (r : Range) : List Position := [r.start, r.stop]

def numbers (r : Range) : List Int := r.start.numbers ++ r.stop.numbers

def IsCaret (r : Range) : Prop := r.start = r.stop

instance (r : Range) : Decidable r.IsCaret := inferInstanceAs (Decidable (r.start = r.stop))

/-- The compact form of outlines, as in [2,0-4,17]. -/
def text (r : Range) : String :=
  s!"[{r.start.line},{r.start.character}-{r.stop.line},{r.stop.character}]"

/-- The bound that a slice index gives in a sequence of two: a negative index counts from the end,
and what lies outside is moved to `low` or `high`. -/
def sliceBound (low high : Int) (index? : Option Int) (missing : Int) : Int :=
  match index? with
  | none => missing
  | some i => let i := if i < 0 then i + 2 else i; max low (min high i)

/-- The ends at which a slice stops, in its order; a slice has no step 0. -/
def slice? (r : Range) (start? stop? step? : Option Int) : Option (List Position) :=
  let step := step?.getD 1
  if step = 0 then none
  else if 0 < step then
    let start := sliceBound 0 2 start? 0
    let stop := sliceBound 0 2 stop? 2
    some ([start, start + step].filterMap fun i =>
      if 0 ≤ i ∧ i < stop then r.ends[i.toNat]? else none)
  else
    let start := sliceBound (-1) 1 start? 1
    let stop := sliceBound (-1) 1 stop? (-1)
    some ([start, start + step].filterMap fun i =>
      if 0 ≤ i ∧ stop < i then r.ends[i.toNat]? else none)

end Range

end OpenDocs
