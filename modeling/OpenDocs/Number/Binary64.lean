/-!
# Numbers of 53 significant bits

The finite ones are m * 2 ^ e with m below 2 ^ 53 and e at least -1074, and m at least 2 ^ 52
unless e is -1074. A decimal is read as the nearest of them, a tie going to the even m.
-/

namespace OpenDocs

inductive Binary64 where
  | finite (negative : Bool) (mantissa : Nat) (exponent : Int)
  | infinite (negative : Bool)
  | nan
  deriving DecidableEq, Inhabited

namespace Binary64

def zero (negative : Bool) : Binary64 := .finite negative 0 (-1074)

/-- The quotient nearest to n / d, a tie going to the even one. -/
def divEven (n d : Nat) : Nat :=
  let q := n / d
  let r := n % d
  if d < 2 * r ∨ (2 * r = d ∧ q % 2 = 1) then q + 1 else q

/-- Divides n / d by 2 ^ e, as a fraction of naturals. -/
def scaled (n d : Nat) : Int → Nat × Nat
  | .ofNat e => (n, d * Nat.pow 2 e)
  | .negSucc e => (n * Nat.pow 2 (e + 1), d)

/-- The nearest number to the positive fraction n / d. -/
def ofFraction (negative : Bool) (n d : Nat) : Binary64 :=
  let guess : Int := max ((n.log2 : Int) - d.log2 - 53) (-1074)
  let (a, b) := scaled n d guess
  let e := if Nat.pow 2 53 ≤ a / b then guess + 1 else guess
  let (a, b) := scaled n d e
  let q := divEven a b
  let (m, e) := if q = Nat.pow 2 53 then (Nat.pow 2 52, e + 1) else (q, e)
  if 971 < e then .infinite negative else .finite negative m e

/-- Reads digits * 10 ^ exponent; what is out of reach on either side is settled without the
power. -/
def ofDecimal (negative : Bool) (digits : Nat) (exponent : Int) : Binary64 :=
  let size : Int := (Nat.toDigits 10 digits).length
  if digits = 0 then zero negative
  else if 310 < size + exponent then .infinite negative
  else if size + exponent < -330 then zero negative
  else match exponent with
    | .ofNat e => ofFraction negative (digits * Nat.pow 10 e) 1
    | .negSucc e => ofFraction negative digits (Nat.pow 10 (e + 1))

/-- The value as a fraction of an integer over a positive natural. -/
def fraction? : Binary64 → Option (Int × Nat)
  | .finite s m (.ofNat e) => some ((if s then -(m * Nat.pow 2 e : Nat) else (m * Nat.pow 2 e : Nat)), 1)
  | .finite s m (.negSucc e) => some ((if s then -(m : Int) else m), Nat.pow 2 (e + 1))
  | _ => none

/-- How the number compares with an integer; nothing for what is no number. -/
def compareInt? (x : Binary64) (n : Int) : Option Ordering :=
  match x with
  | .infinite true => some .lt
  | .infinite false => some .gt
  | .nan => none
  | _ => x.fraction?.map fun (a, b) => compare a (n * b)

/-- The integer that the number is, if it is one. -/
def toInt? (x : Binary64) : Option Int :=
  match x.fraction? with
  | some (a, b) => if a % b = 0 then some (a / b) else none
  | none => none

def isZero : Binary64 → Bool
  | .finite _ 0 _ => true
  | _ => false

end Binary64

end OpenDocs
