/-!
# Texts with lone surrogates

A text that came in as UTF-16 code units, or as bytes that were no UTF-8, may hold half of a
surrogate pair without the other half. Such a text is torn: it has code points, but it is no
sequence of characters and has no encoding.
-/

namespace OpenDocs.Text

/-- A code point: a character, or a surrogate that stands alone. -/
inductive Point where
  | char (c : Char)
  | surrogate (n : Fin 0x800)
  deriving DecidableEq

namespace Point

def char? : Point → Option Char
  | char c => some c
  | surrogate _ => none

def number : Point → Nat
  | char c => c.toNat
  | surrogate n => 0xD800 + n

/-- The point that one UTF-16 code unit stands for. -/
def ofUnit (n : Nat) : Point :=
  if h : 0xD800 ≤ n ∧ n < 0xE000 then surrogate ⟨n - 0xD800, by omega⟩ else char (Char.ofNat n)

end Point

def pointsOf (cs : List Char) : List Point := cs.map .char

def points (s : String) : List Point := pointsOf s.toList

def chars? : List Point → Option (List Char)
  | [] => some []
  | .char c :: ps => (chars? ps).map (c :: ·)
  | .surrogate _ :: _ => none

/-- The text with these code points, if it is not torn. -/
def whole? (ps : List Point) : Option String := (chars? ps).map String.ofList

theorem chars?_eq_some_iff {ps : List Point} {cs : List Char} :
    chars? ps = some cs ↔ ps = pointsOf cs := by
  induction ps generalizing cs with
  | nil => cases cs <;> simp [chars?, pointsOf]
  | cons p ps ih =>
    cases p with
    | surrogate n => cases cs <;> simp [chars?, pointsOf]
    | char c =>
      rw [chars?, Option.map_eq_some_iff]
      constructor
      · rintro ⟨rest, read, rfl⟩
        rw [ih.mp read]
        rfl
      · intro same
        cases cs with
        | nil => cases same
        | cons c' rest =>
          obtain ⟨first, behind⟩ := List.cons.inj same
          obtain rfl := Point.char.inj first
          exact ⟨rest, ih.mpr behind, rfl⟩

theorem whole?_eq_some_iff {ps : List Point} {s : String} : whole? ps = some s ↔ ps = points s := by
  rw [whole?, Option.map_eq_some_iff]
  constructor
  · rintro ⟨cs, read, rfl⟩
    rw [chars?_eq_some_iff.mp read, points, String.toList_ofList]
  · rintro rfl
    exact ⟨s.toList, chars?_eq_some_iff.mpr rfl, String.ofList_toList⟩

@[simp] theorem whole?_points (s : String) : whole? (points s) = some s :=
  whole?_eq_some_iff.mpr rfl

theorem points_inj {s t : String} : points s = points t ↔ s = t := by
  constructor
  · intro same
    have read := whole?_points s
    rw [same, whole?_points] at read
    exact (Option.some.inj read).symm
  · rintro rfl
    rfl

/-- What is left without the points of a kind at either end. -/
def trimPoints (kind : Char → Bool) (ps : List Point) : List Point :=
  let ofKind (p : Point) : Bool := (p.char?.map kind).getD false
  ((ps.dropWhile ofKind).reverse.dropWhile ofKind).reverse

/-- The text with a mark for each lone surrogate. -/
def mended (ps : List Point) : String :=
  String.ofList (ps.map fun p => match p with
    | .char c => c
    | .surrogate _ => '\uFFFD')

/-- A text that is torn. -/
structure Torn where
  points : List Point
  torn : whole? points = none
  deriving DecidableEq

end OpenDocs.Text
