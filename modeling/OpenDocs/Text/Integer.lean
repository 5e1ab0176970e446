import OpenDocs.Text.Classes

/-!
# Integers in texts

A sign and decimal digits of any script, with single underscores between digits and blanks around
the whole.
-/

namespace OpenDocs.Text

/-- Blanks but the separators of ASCII. -/
def isNumberBlank (c : Char) : Bool := isBlank c && !(0x1C ≤ c.toNat && c.toNat ≤ 0x1F)

/-- Digits of which each but the first may follow an underscore. -/
def readDigits? : List Char → Option (List Nat)
  | [] => none
  | [c] => (digitValue? c).map ([·])
  | c :: '_' :: cs => do
    let d ← digitValue? c
    let ds ← readDigits? cs
    pure (d :: ds)
  | c :: cs => do
    let d ← digitValue? c
    let ds ← readDigits? cs
    pure (d :: ds)

/-- The most digits that are converted. -/
def maxDigits : Nat := 4300

def readNatural? (cs : List Char) : Option Nat := do
  let ds ← readDigits? cs
  if maxDigits < ds.length then none else some (ds.foldl (fun n d => n * 10 + d) 0)

def readInteger? (s : String) : Option Int :=
  let inner := ((s.toList.dropWhile isNumberBlank).reverse.dropWhile isNumberBlank).reverse
  match inner with
  | '+' :: cs => (readNatural? cs).map Int.ofNat
  | '-' :: cs => (readNatural? cs).map fun n => -(n : Int)
  | cs => (readNatural? cs).map Int.ofNat

end OpenDocs.Text
