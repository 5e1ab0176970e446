import OpenDocs.Number.Shortest
import OpenDocs.Problem

/-!
# The lines of a text

A line break is a carriage return, a line feed, or the two together. The line table gives each
line its start, its length and the width of its break; the last line has no break. Positions are
resolved to offsets through the table, and offsets to positions.
-/

namespace OpenDocs.Text

structure Line where
  start : Nat
  length : Nat
  breakWidth : Nat
  deriving DecidableEq

namespace Line

/-- The columns a caret may stand at on this line run up to its width. -/
def width (l : Line) : Nat := l.length + l.breakWidth

def next (l : Line) : Nat := l.start + l.width

end Line

/-- The table of the rest of a text, `length` code points into the line that begins at `start`. -/
def linesFrom (start length : Nat) : List Char → List Line
  | [] => [⟨start, length, 0⟩]
  | '\r' :: '\n' :: rest => ⟨start, length, 2⟩ :: linesFrom (start + length + 2) 0 rest
  | c :: rest =>
    if c = '\r' ∨ c = '\n' then ⟨start, length, 1⟩ :: linesFrom (start + length + 1) 0 rest
    else linesFrom start (length + 1) rest

theorem linesFrom_ne_nil (start length : Nat) (t : List Char) : linesFrom start length t ≠ [] := by
  fun_induction linesFrom start length t with
  | case4 start length c rest notPair notBreak ih => exact ih
  | _ => exact List.cons_ne_nil _ _

def lines (t : List Char) : List Line := linesFrom 0 0 t

def lineCount (t : List Char) : Nat := (lines t).length

def slice (t : List Char) (start stop : Nat) : List Char := (t.take stop).drop start

def Line.chars (l : Line) (t : List Char) : List Char := (t.drop l.start).take l.length

def lineTexts (t : List Char) : List (List Char) := (lines t).map (·.chars t)

theorem lineTexts_ne_nil (t : List Char) : lineTexts t ≠ [] :=
  fun none => linesFrom_ne_nil 0 0 t (List.map_eq_nil_iff.mp none)

/-- The offset of a position, by the table of the text. -/
def resolve (table : List Line) (p : Position) : Except RangeFlaw Nat :=
  match table[p.line]? with
  | none => .error (.noLine p table.length)
  | some l => if l.width < p.character then .error (.pastLine p l.width)
    else .ok (l.start + p.character)

theorem resolve_eq_ok_iff {table : List Line} {p : Position} {offset : Nat} :
    resolve table p = .ok offset ↔
      ∃ l, table[p.line]? = some l ∧ p.character ≤ l.width ∧ offset = l.start + p.character := by
  unfold resolve
  cases found : table[p.line]? with
  | none => simp
  | some l =>
    simp only [Option.some.injEq, exists_eq_left']
    split
    · next past =>
      constructor
      · intro resolved
        cases resolved
      · intro place
        omega
    · next within =>
      rw [Except.ok.injEq]
      omega

theorem resolve_eq_error_iff {table : List Line} {p : Position} {flaw : RangeFlaw} :
    resolve table p = .error flaw ↔
      table.length ≤ p.line ∧ flaw = .noLine p table.length ∨
        ∃ l, table[p.line]? = some l ∧ l.width < p.character ∧ flaw = .pastLine p l.width := by
  unfold resolve
  cases found : table[p.line]? with
  | none =>
    have bound := List.getElem?_eq_none_iff.mp found
    simp [bound, eq_comm]
  | some l =>
    have held := (List.getElem?_eq_some_iff.mp found).1
    simp only [Option.some.injEq, exists_eq_left', Nat.not_le_of_lt held, false_and, false_or]
    split
    · next past => simp [past, eq_comm]
    · next within => simp [within]

def offsetOf (t : List Char) (p : Position) : Except RangeFlaw Nat := resolve (lines t) p

/-- Where an offset stands, from line `index` of the table on. -/
def locateFrom (index offset : Nat) : List Line → Position
  | [] => ⟨index, 0⟩
  | [l] => ⟨index, offset - l.start⟩
  | l :: ls => if offset < l.next then ⟨index, offset - l.start⟩
    else locateFrom (index + 1) offset ls

theorem locateFrom_head {l : Line} {index offset : Nat} (ls : List Line)
    (before : offset < l.next) : locateFrom index offset (l :: ls) = ⟨index, offset - l.start⟩ := by
  cases ls with
  | nil => rfl
  | cons m ls => exact if_pos before

theorem locateFrom_tail {l : Line} {ls : List Line} {index offset : Nat} (more : ls ≠ [])
    (behind : l.next ≤ offset) :
    locateFrom index offset (l :: ls) = locateFrom (index + 1) offset ls := by
  cases ls with
  | nil => exact absurd rfl more
  | cons m ls => exact if_neg (Nat.not_lt_of_le behind)

def positionAt (t : List Char) (offset : Nat) : Position := locateFrom 0 offset (lines t)

/-- A number as it is handed in: whole, a truth value counted as 0 or 1, or a fraction. -/
inductive Offset where
  | whole (n : Int)
  | truth (b : Bool)
  | fraction (x : Binary64)
  deriving DecidableEq

namespace Offset

def compareTo? : Offset → Int → Option Ordering
  | whole n, k => some (compare n k)
  | truth b, k => some (compare (if b then 1 else 0) k)
  | fraction x, k => x.compareInt? k

end Offset

def Offset.text : Offset → String
  | whole n => toString n
  | truth b => if b then "True" else "False"
  | fraction x => x.text

/-- The position of an offset; a fraction inside the text is at no column. -/
def locate (t : List Char) (offset : Offset) : Except RangeFlaw Position :=
  if offset.compareTo? 0 = some .lt ∨ offset.compareTo? t.length = some .gt then
    .error (.offsetOutside offset.text t.length)
  else match offset with
    | .whole n => .ok (positionAt t n.toNat)
    | .truth b => .ok (positionAt t (if b then 1 else 0))
    | .fraction _ => .error (.notInteger .character)

theorem locate_whole_eq_ok_iff {t : List Char} {n : Int} {p : Position} :
    locate t (.whole n) = .ok p ↔ 0 ≤ n ∧ n ≤ t.length ∧ positionAt t n.toNat = p := by
  have outside : (compare n 0 = .lt ∨ compare n t.length = .gt) ↔ ¬ (0 ≤ n ∧ n ≤ t.length) := by
    rw [Int.compare_eq_lt, Int.compare_eq_gt]
    omega
  by_cases inside : 0 ≤ n ∧ n ≤ t.length
  · simp [locate, Offset.compareTo?, outside, inside]
  · simp only [locate, Offset.compareTo?, Option.some.injEq, outside, inside, not_false_eq_true,
      if_true, ← and_assoc, false_and, reduceCtorEq]

theorem locate_natCast_eq_ok_iff {t : List Char} {n : Nat} {p : Position} :
    locate t (.whole n) = .ok p ↔ n ≤ t.length ∧ positionAt t n = p := by
  rw [locate_whole_eq_ok_iff, Int.toNat_natCast, Int.ofNat_le]
  exact and_iff_right (Int.natCast_nonneg n)

end OpenDocs.Text
