import OpenDocs.Proofs.Text.Tiling

/-!
# Positions and offsets

An offset stands at one position, on the line whose content or break it is in. A caret may be one
step behind the break of its line too: then it has the offset of the next line's start, and that is
the only other position of an offset. Both orders agree.
-/

namespace OpenDocs.Text

/-- The offset stands at the position: before the end of its line, or anywhere on the last. -/
def Stands (table : List Line) (p : Position) (offset : Nat) : Prop :=
  ∃ l, table[p.line]? = some l ∧ offset = l.start + p.character ∧
    (p.character < l.width ∨ p.line + 1 = table.length ∧ p.character ≤ l.width)

theorem Stands.resolve_eq {table : List Line} {p : Position} {offset : Nat}
    (stands : Stands table p offset) : resolve table p = .ok offset := by
  obtain ⟨l, found, place, bound⟩ := stands
  exact resolve_eq_ok_iff.mpr ⟨l, found, by omega, place⟩

namespace Tiles

variable {stop start : Nat} {table : List Line}

theorem locateFrom_stands (tiled : Tiles stop start table) {offset : Nat} (low : start ≤ offset)
    (high : offset ≤ stop) (index : Nat) :
    ∃ line character, locateFrom index offset table = ⟨index + line, character⟩ ∧
      Stands table ⟨line, character⟩ offset := by
  induction tiled generalizing index with
  | @last l start begins noBreak ends =>
    simp only [Line.next] at ends
    refine ⟨0, offset - l.start, rfl, l, rfl, ?_, .inr ⟨rfl, ?_⟩⟩
    · show offset = l.start + (offset - l.start)
      omega
    · show offset - l.start ≤ l.width
      omega
  | @more l ls start begins hasBreak rest ih =>
    by_cases before : offset < l.next
    · refine ⟨0, offset - l.start, locateFrom_head ls before, l, rfl, ?_, .inl ?_⟩
      · show offset = l.start + (offset - l.start)
        omega
      · show offset - l.start < l.width
        simp only [Line.next] at before
        omega
    · have behind := Nat.le_of_not_lt before
      obtain ⟨line, character, located, m, found, place, bound⟩ := ih behind (index + 1)
      refine ⟨line + 1, character, ?_, m, found, place, ?_⟩
      · rw [locateFrom_tail rest.ne_nil behind, located, Nat.add_right_comm, Nat.add_assoc]
      · simpa using bound

/-- Of two positions of which one is where its offset stands, the order is that of the offsets. -/
theorem le_iff_of_stands (tiled : Tiles stop start table) {p q : Position} {a b : Nat}
    (stands : Stands table p a) (resolved : resolve table q = .ok b) : q ≤ p ↔ b ≤ a := by
  obtain ⟨l, found, rfl, bound⟩ := stands
  obtain ⟨m, met, within, rfl⟩ := resolve_eq_ok_iff.mp resolved
  rw [Position.le_iff]
  rcases Nat.lt_trichotomy p.line q.line with before | same | after
  · obtain ⟨d, gap⟩ := Nat.exists_eq_add_of_lt before
    rw [show p.line + d + 1 = p.line + 1 + d by omega] at gap
    rw [gap] at met
    have apart := tiled.next_add_index_le_start found met
    have inside : q.line < table.length := (List.getElem?_eq_some_iff.mp (gap ▸ met)).1
    simp only [Line.next] at apart
    omega
  · rw [same, met] at found
    obtain rfl := Option.some.inj found
    omega
  · obtain ⟨d, gap⟩ := Nat.exists_eq_add_of_lt after
    rw [show q.line + d + 1 = q.line + 1 + d by omega] at gap
    rw [gap] at found
    have apart := tiled.next_add_index_le_start met found
    simp only [Line.next] at apart
    omega

theorem stands_unique (tiled : Tiles stop start table) {p q : Position} {offset : Nat}
    (first : Stands table p offset) (second : Stands table q offset) : p = q :=
  Position.le_antisymm ((tiled.le_iff_of_stands second first.resolve_eq).mpr (Nat.le_refl _))
    ((tiled.le_iff_of_stands first second.resolve_eq).mpr (Nat.le_refl _))

theorem start_stands (tiled : Tiles stop start table) {line : Nat} {l : Line}
    (found : table[line]? = some l) : Stands table ⟨line, 0⟩ l.start := by
  refine ⟨l, found, rfl, ?_⟩
  rcases tiled.width_pos_or_last found with wide | last
  · exact .inl wide
  · exact .inr ⟨last, Nat.zero_le _⟩

/-- A position that resolves to an offset is where it stands, or just behind the break of the line
before. -/
theorem stands_or_behind_break (tiled : Tiles stop start table) {q : Position} {offset : Nat}
    (resolved : resolve table q = .ok offset) :
    Stands table q offset ∨
      Stands table ⟨q.line + 1, 0⟩ offset ∧
        ∃ l, table[q.line]? = some l ∧ q.character = l.width := by
  obtain ⟨l, found, within, place⟩ := resolve_eq_ok_iff.mp resolved
  by_cases inside : q.character < l.width
  · exact .inl ⟨l, found, place, .inl inside⟩
  · cases after : table[q.line + 1]? with
    | none =>
      have bound := List.getElem?_eq_none_iff.mp after
      have held := (List.getElem?_eq_some_iff.mp found).1
      exact .inl ⟨l, found, place, .inr ⟨by omega, within⟩⟩
    | some m =>
      have begins : m.start = offset := by
        rw [(tiled.start_eq_next found after).1, Line.next]
        omega
      exact .inr ⟨begins ▸ tiled.start_stands after, l, found, by omega⟩

end Tiles

variable {t : List Char}

theorem offset_le_length {p : Position} {n : Nat} (resolved : offsetOf t p = .ok n) :
    n ≤ t.length := by
  obtain ⟨l, found, within, place⟩ := resolve_eq_ok_iff.mp resolved
  have inside := (lines_tiles t).next_le_stop found
  simp only [Line.next] at inside
  omega

theorem positionAt_stands {n : Nat} (inside : n ≤ t.length) :
    Stands (lines t) (positionAt t n) n := by
  obtain ⟨line, character, located, stands⟩ :=
    (lines_tiles t).locateFrom_stands (Nat.zero_le n) inside 0
  rw [positionAt, located, Nat.zero_add]
  exact stands

theorem Stands.positionAt_eq {p : Position} {n : Nat} (stands : Stands (lines t) p n) :
    positionAt t n = p :=
  (lines_tiles t).stands_unique (positionAt_stands (offset_le_length stands.resolve_eq)) stands

theorem offsetOf_positionAt {n : Nat} (inside : n ≤ t.length) :
    offsetOf t (positionAt t n) = .ok n :=
  (positionAt_stands inside).resolve_eq

/-- Among the positions, those up to where an offset stands are those of the offsets up to it. -/
theorem le_positionAt_iff {q : Position} {a b : Nat} (inside : a ≤ t.length)
    (resolved : offsetOf t q = .ok b) : q ≤ positionAt t a ↔ b ≤ a :=
  (lines_tiles t).le_iff_of_stands (positionAt_stands inside) resolved

theorem positionAt_lt_positionAt {a b : Nat} (less : a < b) (inside : b ≤ t.length) :
    positionAt t a < positionAt t b := by
  apply Position.lt_of_not_le
  rw [le_positionAt_iff (by omega) (offsetOf_positionAt inside)]
  omega

theorem offset_le_of_le {p q : Position} {a b : Nat} (ordered : p ≤ q)
    (first : offsetOf t p = .ok a) (second : offsetOf t q = .ok b) : a ≤ b := by
  have inside := offset_le_length second
  have reached : q ≤ positionAt t b := (le_positionAt_iff inside second).mpr (Nat.le_refl b)
  exact (le_positionAt_iff inside first).mp (Position.le_trans ordered reached)

theorem positionAt_length : (positionAt t t.length).line + 1 = lineCount t := by
  obtain ⟨l, found, place, before | ⟨last, _⟩⟩ := positionAt_stands (Nat.le_refl t.length)
  · have inside := (lines_tiles t).next_le_stop found
    simp only [Line.next] at inside
    omega
  · exact last

/-- `p` begins a line, and the caret `q` is behind the break of the line before. -/
def BehindBreak (t : List Char) (p q : Position) : Prop :=
  p.character = 0 ∧ p.line = q.line + 1 ∧
    ∃ l, (lines t)[q.line]? = some l ∧ q.character = l.length + l.breakWidth

theorem BehindBreak.ne {p q : Position} (behind : BehindBreak t p q) : q ≠ p := by
  rintro rfl
  have next := behind.2.1
  omega

theorem exists_behindBreak {n : Nat} (inside : n ≤ t.length) (first : (positionAt t n).character = 0)
    (later : 0 < (positionAt t n).line) : ∃ q, BehindBreak t (positionAt t n) q := by
  obtain ⟨m, found, _⟩ := positionAt_stands inside
  have held := (List.getElem?_eq_some_iff.mp found).1
  obtain ⟨line, next⟩ := Nat.exists_eq_succ_of_ne_zero (Nat.ne_of_gt later)
  have before : line < (lines t).length := by omega
  exact ⟨⟨line, (lines t)[line].width⟩, first, next, _, List.getElem?_eq_getElem before, rfl⟩

theorem start_of_next_line {line n : Nat} {l : Line} (inside : n ≤ t.length)
    (begins : positionAt t n = ⟨line + 1, 0⟩) (found : (lines t)[line]? = some l) :
    n = l.start + l.width := by
  obtain ⟨m, after, place, _⟩ := begins ▸ positionAt_stands inside
  rw [((lines_tiles t).start_eq_next found after).1] at place
  exact place

theorem offsetOf_eq_ok_iff {q : Position} {n : Nat} :
    offsetOf t q = .ok n ↔
      n ≤ t.length ∧ (q = positionAt t n ∨ BehindBreak t (positionAt t n) q) := by
  constructor
  · intro resolved
    refine ⟨offset_le_length resolved, ?_⟩
    rcases (lines_tiles t).stands_or_behind_break resolved with stands | ⟨stands, l, found, full⟩
    · exact .inl stands.positionAt_eq.symm
    · rw [stands.positionAt_eq]
      exact .inr ⟨rfl, rfl, l, found, full⟩
  · rintro ⟨inside, rfl | ⟨first, next, l, found, full⟩⟩
    · exact offsetOf_positionAt inside
    · have begins : positionAt t n = ⟨q.line + 1, 0⟩ := Position.ext next first
      have place := start_of_next_line inside begins found
      exact resolve_eq_ok_iff.mpr ⟨l, found, Nat.le_of_eq full, by rw [place, full]; rfl⟩

/-- Every offset of a text has one position where it stands, the greatest that resolves to it. The
only other one is the caret behind the break of the line before, for an offset that begins a line. -/
theorem locate_inverse (t : List Char) :
    (∀ n : Nat, n ≤ t.length → ∃ p, locate t (.whole n) = .ok p ∧ offsetOf t p = .ok n) ∧
    (∀ (n : Nat) (q : Position), offsetOf t q = .ok n →
      ∃ p, locate t (.whole n) = .ok p ∧ q ≤ p) ∧
    (∀ (n : Nat) (p : Position), locate t (.whole n) = .ok p →
      (∀ q, q ≠ p → (offsetOf t q = .ok n ↔ BehindBreak t p q)) ∧
      ((∃ q, q ≠ p ∧ offsetOf t q = .ok n) ↔ p.character = 0 ∧ 0 < p.line)) ∧
    (∀ (m n : Nat) (p q : Position), locate t (.whole m) = .ok p → locate t (.whole n) = .ok q →
      m < n → p < q) := by
  refine ⟨?_, ?_, ?_, ?_⟩
  · intro n inside
    exact ⟨positionAt t n, locate_natCast_eq_ok_iff.mpr ⟨inside, rfl⟩, offsetOf_positionAt inside⟩
  · intro n q resolved
    have inside := offset_le_length resolved
    exact ⟨positionAt t n, locate_natCast_eq_ok_iff.mpr ⟨inside, rfl⟩,
      (le_positionAt_iff inside resolved).mpr (Nat.le_refl n)⟩
  · intro n p located
    obtain ⟨inside, rfl⟩ := locate_natCast_eq_ok_iff.mp located
    have others : ∀ q, q ≠ positionAt t n →
        (offsetOf t q = .ok n ↔ BehindBreak t (positionAt t n) q) := by
      intro q other
      rw [offsetOf_eq_ok_iff, or_iff_right other, and_iff_right inside]
    refine ⟨others, ?_, ?_⟩
    · rintro ⟨q, other, resolved⟩
      obtain ⟨first, next, _⟩ := (others q other).mp resolved
      exact ⟨first, by omega⟩
    · rintro ⟨first, later⟩
      obtain ⟨q, behind⟩ := exists_behindBreak inside first later
      exact ⟨q, behind.ne, (others q behind.ne).mpr behind⟩
  · intro m n p q first second less
    obtain ⟨_, rfl⟩ := locate_natCast_eq_ok_iff.mp first
    obtain ⟨inside, rfl⟩ := locate_natCast_eq_ok_iff.mp second
    exact positionAt_lt_positionAt less inside

/-- In a text with two breaks, the offset behind the first is the start of the second line, and the
caret behind the break of the first line resolves to it too. -/
theorem locate_inverse_between_breaks :
    (∃ p, locate ['a', '\r', '\n', '\r'] (.whole (3 : Nat)) = .ok p ∧
      offsetOf ['a', '\r', '\n', '\r'] p = .ok 3) ∧
    offsetOf ['a', '\r', '\n', '\r'] ⟨0, 3⟩ = .ok 3 ∧
    (⟨0, 2⟩ : Position) < ⟨1, 0⟩ := by
  obtain ⟨inverse, _, others, ordered⟩ := locate_inverse ['a', '\r', '\n', '\r']
  refine ⟨inverse 3 (by decide), ?_, ordered 2 3 ⟨0, 2⟩ ⟨1, 0⟩ rfl rfl (by decide)⟩
  exact ((others 3 ⟨1, 0⟩ rfl).1 ⟨0, 3⟩ (by decide)).mpr ⟨rfl, rfl, ⟨0, 1, 2⟩, rfl, rfl⟩

end OpenDocs.Text
