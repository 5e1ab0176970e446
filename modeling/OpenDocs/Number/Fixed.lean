import OpenDocs.Number.Binary64

/-!
# Decimals with a fixed number of places

A fraction is rounded to tenths; one that lies in the middle goes to the even neighbour.
-/

namespace OpenDocs.Number

/-- A fraction of an integer over a positive natural, with one decimal place. -/
def tenths (numerator : Int) (denominator : Nat) : String :=
  let n := Binary64.divEven (numerator.natAbs * 10) denominator
  let sign := if numerator < 0 then "-" else ""
  s!"{sign}{n / 10}.{n % 10}"

end OpenDocs.Number
