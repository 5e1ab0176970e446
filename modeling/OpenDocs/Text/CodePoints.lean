/-!
# Sets of code points

A set is kept as the ascending bounds of its runs: a code point is in it when the number of
bounds not above it is odd.
-/

namespace OpenDocs.Text

def hexValue (c : Char) : Nat :=
  if c.toNat < 58 then c.toNat - 48 else c.toNat - 87

def hexNat (cs : List Char) : Nat := cs.foldl (fun n c => n * 16 + hexValue c) 0

/-- The words of some rows, which blanks divide. -/
def wordsOf (rows : List String) : List (List Char) :=
  rows.flatMap fun row =>
    (row.toList.splitBy fun a b => a != ' ' && b != ' ').filter (· != [' '])

structure CodePoints where
  bounds : Array Nat

namespace CodePoints

/-- The partial sums of the gaps and run lengths. -/
def ofGaps (rows : List String) : CodePoints :=
  ⟨((wordsOf rows).foldl (fun (sum, done) w =>
    (sum + hexNat w, done.push (sum + hexNat w))) (0, #[])).2⟩

/-- How many bounds from `low` up to `high` are not above n, if those below `low` are not and those
from `high` on are. -/
def rankIn (bounds : Array Nat) (n : Nat) (low high : Nat) : Nat :=
  if low < high then
    let middle := (low + high) / 2
    if bounds[middle]?.getD 0 ≤ n then rankIn bounds n (middle + 1) high
    else rankIn bounds n low middle
  else low
termination_by high - low

def rank (s : CodePoints) (c : Char) : Nat := rankIn s.bounds c.toNat 0 s.bounds.size

def contains (s : CodePoints) (c : Char) : Bool := s.rank c % 2 == 1

/-- How far a member is from the first of its run. -/
def offset (s : CodePoints) (c : Char) : Nat := c.toNat - s.bounds[s.rank c - 1]?.getD 0

end CodePoints

/-- Equally spaced code points that move by the same step. -/
structure Run where
  first : Nat
  count : Nat
  distance : Nat
  step : Int

namespace Run

def contains (r : Run) (c : Char) : Bool :=
  let n := c.toNat
  r.first ≤ n && n < r.first + r.count * r.distance && (n - r.first) % r.distance == 0

def shift (r : Run) (c : Char) : Char := Char.ofNat (c.toNat + r.step).toNat

def ofNumbers : Nat → List (List Char) → List Run
  | from_, gap :: count :: distance :: step :: rest =>
    let first := from_ + hexNat gap
    let move : Int := match step with
      | '-' :: digits => -(hexNat digits : Int)
      | digits => hexNat digits
    ⟨first, hexNat count, hexNat distance, move⟩ :: ofNumbers first rest
  | _, _ => []

def ofGaps (rows : List String) : List Run := ofNumbers 0 (wordsOf rows)

end Run

end OpenDocs.Text
