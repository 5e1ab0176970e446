import OpenDocs.Number.Binary64

/-!
# The shortest decimal that reads back

On the grids of 1, 2, ... 17 significant digits the two neighbours of the value are tried; the
first grid with a neighbour inside the interval that rounds to the value gives the digits.
-/

namespace OpenDocs.Binary64

/-- A decimal 0.d₁d₂… * 10 ^ point. -/
structure Digits where
  digits : List Char
  point : Int
  deriving DecidableEq

/-- The least k, of those up to the bound, for which n * 10 ^ k reaches d. -/
def leadingZeros (n d : Nat) : Nat → Nat → Nat
  | 0, k => k
  | bound + 1, k => if d ≤ n * Nat.pow 10 k then k else leadingZeros n d bound (k + 1)

/-- The exponent p with 10 ^ (p - 1) ≤ n / d < 10 ^ p. -/
def decimalPoint (n d : Nat) : Int :=
  if d ≤ n then (Nat.toDigits 10 (n / d)).length else 1 - (leadingZeros n d 400 0 : Int)

def power10 (n d : Nat) : Int → Nat × Nat
  | .ofNat e => (n, d * Nat.pow 10 e)
  | .negSucc e => (n * Nat.pow 10 (e + 1), d)

/-- The neighbour on the grid 10 ^ unit inside the interval from lo / d to hi / d, nearest to
v / d. -/
def neighbour? (v lo hi d : Nat) (closed : Bool) (unit : Int) : Option Nat :=
  let (n, u) := power10 1 d unit
  let inside (c : Nat) : Bool :=
    if closed then decide (lo * n ≤ c * u ∧ c * u ≤ hi * n)
    else decide (lo * n < c * u ∧ c * u < hi * n)
  let below := v * n / u
  let above := below + 1
  match inside below, inside above with
  | true, true =>
    let toBelow := v * n - below * u
    let toAbove := above * u - v * n
    some (if toBelow < toAbove ∨ (toBelow = toAbove ∧ below % 2 = 0) then below else above)
  | true, false => some below
  | false, true => some above
  | false, false => none

def searchGrids (v lo hi d : Nat) (closed : Bool) (point : Int) : Nat → Nat → Digits
  | 0, _ => ⟨[], point⟩
  | more + 1, count =>
    match neighbour? v lo hi d closed (point - count) with
    | some c =>
      let written := Nat.toDigits 10 c
      ⟨(written.reverse.dropWhile (· == '0')).reverse, point - count + written.length⟩
    | none => searchGrids v lo hi d closed point more (count + 1)

/-- The digits of a positive m * 2 ^ e. -/
def shortest (m : Nat) (e : Int) : Digits :=
  let low := if m = Nat.pow 2 52 ∧ -1074 < e then 4 * m - 1 else 4 * m - 2
  let (f, d) : Nat × Nat := match e - 2 with
    | .ofNat k => (Nat.pow 2 k, 1)
    | .negSucc k => (1, Nat.pow 2 (k + 1))
  let v := 4 * m * f
  searchGrids v (low * f) ((4 * m + 2) * f) d (m % 2 == 0) (decimalPoint v d) 17 1

/-- Positional from 10 ^ -4 up to 10 ^ 16, with at least one digit on either side of the point;
else one digit before the point and an exponent of at least two digits. -/
def Digits.text (x : Digits) : String :=
  let n : Int := x.digits.length
  if -4 < x.point ∧ x.point ≤ 16 then
    if x.point ≤ 0 then "0." ++ String.ofList (List.replicate (-x.point).toNat '0' ++ x.digits)
    else if n ≤ x.point then
      String.ofList (x.digits ++ List.replicate (x.point - n).toNat '0') ++ ".0"
    else
      String.ofList (x.digits.take x.point.toNat) ++ "."
        ++ String.ofList (x.digits.drop x.point.toNat)
  else
    let e := x.point - 1
    let digits := toString e.natAbs
    let padded := if digits.length < 2 then "0" ++ digits else digits
    let tail := if n ≤ 1 then "" else "." ++ String.ofList (x.digits.drop 1)
    String.ofList (x.digits.take 1) ++ tail ++ "e" ++ (if e < 0 then "-" else "+") ++ padded

def text : Binary64 → String
  | .finite s 0 _ => if s then "-0.0" else "0.0"
  | .finite s m e => (if s then "-" else "") ++ (shortest m e).text
  | .infinite s => if s then "-inf" else "inf"
  | .nan => "nan"

end OpenDocs.Binary64
