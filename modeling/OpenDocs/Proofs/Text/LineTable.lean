import OpenDocs.Proofs.Text.OneLine
import OpenDocs.Proofs.Text.Tiling

/-!
# What a table of lines is

The lines of a text have no break inside them and are divided by whole breaks: a carriage return
and the line feed behind it are never two. Only one table is like this, and so lines that are put
together with the same break between them are found again.
-/

namespace OpenDocs.Text

def lineBreaks : List (List Char) := [['\r', '\n'], ['\r'], ['\n']]

/-- No part of a line break is in it. -/
def Unbroken (cs : List Char) : Prop := '\r' ∉ cs ∧ '\n' ∉ cs

instance (cs : List Char) : Decidable (Unbroken cs) :=
  inferInstanceAs (Decidable ('\r' ∉ cs ∧ '\n' ∉ cs))

/-- The break of a line, which the last line does not have. -/
def Line.breakChars (l : Line) (t : List Char) : List Char := slice t (l.start + l.length) l.next

/-- The table divides the text from offset `start` on into lines: they follow each other without a
gap, no break is inside one, and a whole break is behind each but the last. -/
structure Divides (t : List Char) (start : Nat) (table : List Line) : Prop where
  tiles : Tiles t.length start table
  unbroken : ∀ l ∈ table, Unbroken (l.chars t)
  width : ∀ l ∈ table.dropLast, l.breakWidth = 1 ∨ l.breakWidth = 2
  broken : ∀ l ∈ table.dropLast, l.breakChars t ∈ lineBreaks
  whole : ∀ l ∈ table.dropLast, l.breakChars t = ['\r'] → t[l.next]? ≠ some '\n'

/-! ### Reading a line and its break -/

theorem Unbroken.of_cons {c : Char} {cs : List Char} (free : Unbroken (c :: cs)) :
    c ≠ '\r' ∧ c ≠ '\n' ∧ Unbroken cs := by
  simp only [Unbroken, List.mem_cons, not_or] at free
  exact ⟨Ne.symm free.1.1, Ne.symm free.2.1, free.1.2, free.2.2⟩

theorem linesFrom_of_ne {start length : Nat} {c : Char} (rest : List Char) (noReturn : c ≠ '\r')
    (noFeed : c ≠ '\n') :
    linesFrom start length (c :: rest) = linesFrom start (length + 1) rest := by
  rw [linesFrom]
  · simp [noReturn, noFeed]
  · intro others carriage
    exact absurd carriage noReturn

theorem linesFrom_unbroken {cs : List Char} (free : Unbroken cs) (start length : Nat)
    (rest : List Char) :
    linesFrom start length (cs ++ rest) = linesFrom start (length + cs.length) rest := by
  induction cs generalizing length with
  | nil => rfl
  | cons c cs ih =>
    obtain ⟨noReturn, noFeed, free⟩ := free.of_cons
    rw [List.cons_append, linesFrom_of_ne _ noReturn noFeed, ih free]
    simp [Nat.add_assoc, Nat.add_comm 1]

theorem linesFrom_break {b rest : List Char} (known : b ∈ lineBreaks)
    (whole : b = ['\r'] → rest.head? ≠ some '\n') (start length : Nat) :
    linesFrom start length (b ++ rest) =
      ⟨start, length, b.length⟩ :: linesFrom (start + length + b.length) 0 rest := by
  simp only [lineBreaks, List.mem_cons, List.not_mem_nil, or_false] at known
  rcases known with rfl | rfl | rfl
  · rfl
  · rw [List.singleton_append, linesFrom, if_pos (.inl rfl)]
    · rfl
    · rintro others - rfl
      exact whole rfl rfl
  · simp [linesFrom]

/-! ### The table is the only one -/

variable {t : List Char} {start : Nat} {table : List Line}

theorem slice_append_drop (t : List Char) {first last : Nat} (ordered : first ≤ last) :
    slice t first last ++ t.drop last = t.drop first := by
  have behind : t.drop last = (t.drop first).drop (last - first) := by
    rw [List.drop_drop, Nat.add_sub_cancel' ordered]
  rw [slice, List.drop_take, behind, List.take_append_drop]

theorem Line.chars_append (l : Line) (t : List Char) :
    l.chars t ++ (l.breakChars t ++ t.drop l.next) = t.drop l.start := by
  rw [breakChars, slice_append_drop _ (by simp only [next, width]; omega), chars, ← List.drop_drop,
    List.take_append_drop]

theorem Divides.tail {l : Line} {ls : List Line} (divided : Divides t start (l :: ls))
    (more : ls ≠ []) : Divides t l.next ls := by
  obtain ⟨tiles, unbroken, width, broken, whole⟩ := divided
  rw [List.dropLast_cons_of_ne_nil more] at width broken whole
  cases tiles with
  | last => exact absurd rfl more
  | more begins hasBreak rest =>
    exact ⟨rest, (List.forall_mem_cons.mp unbroken).2, (List.forall_mem_cons.mp width).2,
      (List.forall_mem_cons.mp broken).2, (List.forall_mem_cons.mp whole).2⟩

theorem Divides.linesFrom_eq (divided : Divides t start table) :
    linesFrom start 0 (t.drop start) = table := by
  induction table generalizing start with
  | nil => cases divided.tiles
  | cons l ls ih =>
    have free := divided.unbroken l List.mem_cons_self
    have inside := divided.tiles.next_le_stop (i := 0) rfl
    have starts : l.start = start := by cases divided.tiles <;> assumption
    simp only [Line.next, Line.width] at inside
    have length : (l.chars t).length = l.length := by
      simp only [Line.chars, List.length_take, List.length_drop]
      omega
    rw [← starts, ← l.chars_append, linesFrom_unbroken free, length, Nat.zero_add]
    cases ls with
    | nil =>
      cases divided.tiles with
      | last _ noBreak ends =>
        have nothing : l.breakChars t = [] := by
          simp [Line.breakChars, slice, Line.next, Line.width, noBreak]
        rw [nothing, ends, List.drop_length, List.append_nil, linesFrom, ← noBreak]
      | more _ _ rest => exact absurd rfl rest.ne_nil
    | cons m ls =>
      have held : l ∈ (l :: m :: ls).dropLast := by simp
      have whole : l.breakChars t = ['\r'] → (t.drop l.next).head? ≠ some '\n' := by
        simpa using divided.whole l held
      have width : (l.breakChars t).length = l.breakWidth := by
        simp only [Line.breakChars, slice, Line.next, Line.width, List.length_drop,
          List.length_take]
        omega
      have later := ih (divided.tail (List.cons_ne_nil m ls))
      rw [Line.next, Line.width, ← Nat.add_assoc] at later
      rw [linesFrom_break (divided.broken l held) whole, width, Line.next, Line.width,
        ← Nat.add_assoc, later]

/-! ### The table divides the text -/

theorem Divides.last {l : Line} (noBreak : l.breakWidth = 0) (ends : l.next = t.length)
    (free : Unbroken (l.chars t)) : Divides t l.start [l] := by
  refine ⟨.last rfl noBreak ends, ?_, ?_, ?_, ?_⟩ <;> simp [free]

theorem Divides.cons {l : Line} {ls : List Line} (divided : Divides t l.next ls)
    (free : Unbroken (l.chars t)) (width : l.breakWidth = 1 ∨ l.breakWidth = 2)
    (broken : l.breakChars t ∈ lineBreaks)
    (whole : l.breakChars t = ['\r'] → t[l.next]? ≠ some '\n') : Divides t l.start (l :: ls) := by
  obtain ⟨tiles, unbroken, widths, breaks, wholes⟩ := divided
  have more := tiles.ne_nil
  refine ⟨.more rfl (by omega) tiles, ?_, ?_, ?_, ?_⟩
  · exact List.forall_mem_cons.mpr ⟨free, unbroken⟩
  all_goals rw [List.dropLast_cons_of_ne_nil more, List.forall_mem_cons]
  · exact ⟨width, widths⟩
  · exact ⟨broken, breaks⟩
  · exact ⟨whole, wholes⟩

theorem Line.breakChars_of_append (before here b behind : List Char) :
    breakChars ⟨before.length, here.length, b.length⟩ (before ++ here ++ (b ++ behind)) = b := by
  have place : before.length + here.length = (before ++ here).length := List.length_append.symm
  rw [breakChars, slice, next, width, List.drop_take, ← Nat.add_assoc, place, List.drop_left,
    Nat.add_sub_cancel_left, List.take_left]

theorem Divides.cons_break {before here b rest : List Char} {ls : List Line} (free : Unbroken here)
    (known : b ∈ lineBreaks) (whole : b = ['\r'] → rest.head? ≠ some '\n')
    (divided :
      Divides (before ++ here ++ (b ++ rest)) (before.length + here.length + b.length) ls) :
    Divides (before ++ here ++ (b ++ rest)) before.length
      (⟨before.length, here.length, b.length⟩ :: ls) := by
  have broken := Line.breakChars_of_append before here b rest
  rw [Nat.add_assoc] at divided
  refine Divides.cons (l := ⟨before.length, here.length, b.length⟩) divided ?_ ?_ ?_ ?_
  · rwa [Line.chars_of_append]
  · simp only [lineBreaks, List.mem_cons, List.not_mem_nil, or_false] at known
    rcases known with rfl | rfl | rfl <;> simp
  · rwa [broken]
  · rw [broken]
    intro carriage
    have place : before.length + (here.length + b.length) = (before ++ here ++ b).length := by simp
    rw [Line.next, Line.width, place, ← List.append_assoc,
      List.getElem?_append_right (Nat.le_refl _), Nat.sub_self, ← List.head?_eq_getElem?]
    exact whole carriage

/-- The line that is open so far is `here`. -/
theorem divides_linesFrom {start length : Nat} {rest : List Char} (before here : List Char)
    (from_eq : before.length = start) (length_eq : here.length = length) (free : Unbroken here) :
    Divides (before ++ here ++ rest) start (linesFrom start length rest) := by
  fun_induction linesFrom start length rest generalizing before here with
  | case1 start length =>
    subst from_eq length_eq
    apply Divides.last (l := ⟨before.length, here.length, 0⟩) rfl
    · simp [Line.next, Line.width]
    · rwa [Line.chars_of_append]
  | case2 start length rest ih =>
    subst from_eq length_eq
    have later := ih (before ++ here ++ ['\r', '\n']) [] (by simp [Nat.add_assoc]) rfl (by decide)
    rw [List.append_nil, List.append_assoc _ ['\r', '\n']] at later
    exact later.cons_break (b := ['\r', '\n']) free (by decide) (by simp)
  | case3 start length c rest notPair isBreak ih =>
    subst from_eq length_eq
    have later := ih (before ++ here ++ [c]) [] (by simp [Nat.add_assoc]) rfl (by decide)
    rw [List.append_nil, List.append_assoc _ [c]] at later
    refine later.cons_break (b := [c]) free ?_ ?_
    · rcases isBreak with rfl | rfl <;> decide
    · rintro ⟨⟩ paired
      obtain ⟨others, rfl⟩ := List.head?_eq_some_iff.mp paired
      exact notPair others rfl rfl
  | case4 start length c rest notPair notBreak ih =>
    have longer : Unbroken (here ++ [c]) := by
      obtain ⟨noReturn, noFeed⟩ := not_or.mp notBreak
      simp [Unbroken, free.1, free.2, Ne.symm noReturn, Ne.symm noFeed]
    have later := ih before (here ++ [c]) from_eq (by simp [length_eq]) longer
    simpa using later

theorem divides_lines (t : List Char) : Divides t 0 (lines t) :=
  divides_linesFrom [] [] rfl rfl (by decide)

theorem divides_iff : Divides t 0 table ↔ table = lines t := by
  constructor
  · intro divided
    exact divided.linesFrom_eq.symm
  · rintro rfl
    exact divides_lines t

/-! ### Lines put together -/

/-- The same line in a text that begins so much earlier. -/
def Line.shift (n : Nat) (l : Line) : Line := { l with start := n + l.start }

theorem linesFrom_add (n start length : Nat) (rest : List Char) :
    linesFrom (n + start) length rest = (linesFrom start length rest).map (·.shift n) := by
  fun_induction linesFrom start length rest with
  | case1 start length => rfl
  | case2 start length rest ih =>
    rw [linesFrom, List.map_cons, ← ih]
    simp only [Line.shift, Nat.add_assoc]
  | case3 start length c rest notPair isBreak ih =>
    rw [linesFrom, if_pos isBreak, List.map_cons, ← ih]
    · simp only [Line.shift, Nat.add_assoc]
    · exact notPair
  | case4 start length c rest notPair notBreak ih =>
    rw [linesFrom, if_neg notBreak, ih]
    exact notPair

theorem Line.chars_shift (l : Line) (before t : List Char) :
    (l.shift before.length).chars (before ++ t) = l.chars t := by
  simp only [chars, shift, List.drop_length_add_append]

theorem lineTexts_of_unbroken {cs : List Char} (free : Unbroken cs) : lineTexts cs = [cs] := by
  have whole := linesFrom_unbroken free 0 0 []
  rw [List.append_nil] at whole
  simp [lineTexts, lines, whole, linesFrom, Line.chars]

theorem map_chars_linesFrom (before t : List Char) :
    (linesFrom before.length 0 t).map (·.chars (before ++ t)) = lineTexts t := by
  have moved := linesFrom_add before.length 0 0 t
  rw [Nat.add_zero] at moved
  rw [moved, List.map_map, lineTexts, lines]
  apply List.map_congr_left
  intro l _
  apply Line.chars_shift

theorem lineTexts_append_break {cs b rest : List Char} (free : Unbroken cs) (known : b ∈ lineBreaks)
    (whole : b = ['\r'] → rest.head? ≠ some '\n') :
    lineTexts (cs ++ (b ++ rest)) = cs :: lineTexts rest := by
  have first := Line.chars_of_append [] cs (b ++ rest) b.length
  have behind := map_chars_linesFrom (cs ++ b) rest
  rw [List.length_append, List.append_assoc] at behind
  rw [lineTexts, lines, linesFrom_unbroken free, linesFrom_break known whole, Nat.zero_add,
    Nat.zero_add, List.map_cons, behind]
  congr 1

theorem head?_intercalate_ne {ls : List (List Char)} (free : ∀ l ∈ ls, Unbroken l) :
    (['\r'].intercalate ls).head? ≠ some '\n' := by
  cases ls with
  | nil => simp
  | cons cs rest =>
    have own := free cs List.mem_cons_self
    cases cs with
    | nil => cases rest <;> simp [List.intercalate_cons_cons]
    | cons c cs =>
      have noFeed := own.of_cons.2.1
      cases rest <;> simp [List.intercalate_cons_cons, noFeed]

/-- Lines that are put together with one and the same break are found again. -/
theorem lineTexts_intercalate {ls : List (List Char)} {b : List Char} (more : ls ≠ [])
    (free : ∀ l ∈ ls, Unbroken l) (known : b ∈ lineBreaks) : lineTexts (b.intercalate ls) = ls := by
  induction ls with
  | nil => exact absurd rfl more
  | cons cs rest ih =>
    obtain ⟨own, others⟩ := List.forall_mem_cons.mp free
    cases rest with
    | nil => rw [List.intercalate_singleton, lineTexts_of_unbroken own]
    | cons cs' rest =>
      rw [List.intercalate_cons_cons, List.append_assoc, lineTexts_append_break own known]
      · rw [ih (List.cons_ne_nil cs' rest) others]
      · rintro rfl
        exact head?_intercalate_ne others

end OpenDocs.Text
