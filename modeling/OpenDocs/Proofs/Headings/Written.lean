import OpenDocs.Proofs.Headings.Numbered
import OpenDocs.Proofs.Text.LineTable

/-!
# Written headings are read back

A heading can be written with spaces before it, with any blanks between its signs and its title, and
with closing signs. Among lines that have no part in a heading it is found where it is written, with
its level and its title, whatever number signs the title has itself.
-/

namespace OpenDocs.Headings

open Text (isBlank strip Unbroken)

/-! ### The forms of lines -/

/-- At most three spaces, one to six number signs, blanks, a title, and what closes it. A line may
have this form in more than one way. -/
structure HeadingLine (line : List Char) (level : Nat) (title : List Char) : Prop where
  level_pos : 1 ≤ level
  level_le : level ≤ 6
  named : title ≠ []
  spelled : ∃ spaces ≤ 3, ∃ gap closing, gap ≠ [] ∧ (∀ c ∈ gap, isBlank c = true) ∧
    ClosesTitle closing ∧ line = List.replicate spaces ' ' ++
      (List.replicate level '#' ++ (gap ++ (title ++ closing)))

/-- At most three spaces, a run of the mark, and blanks. -/
def UnderlineOf (mark : Char) (line : List Char) : Prop :=
  ∃ spaces ≤ 3, ∃ (n : Nat) (tail : List Char), (∀ c ∈ tail, isBlank c = true) ∧
    line = List.replicate spaces ' ' ++ (List.replicate (n + 1) mark ++ tail)

/-- A line that is neither numbered nor a fence, and does not underline another. -/
structure PlainLine (line : List Char) : Prop where
  unbroken : Unbroken line
  unnumbered : ∀ level title, ¬ HeadingLine line level title
  unfenced : ∀ f info, ¬ FenceLine line f info
  loose : ∀ mark ∈ ['=', '-'], ¬ UnderlineOf mark line

/-- A title on one line that has no blanks at its ends, and does not end in what could close it. -/
structure ProperTitle (title : List Char) : Prop where
  named : title ≠ []
  stripped : strip title = title
  unbroken : Unbroken title
  unclosed : ∀ (before : List Char) (c : Char) (n : Nat), isBlank c = true →
    title ≠ before ++ c :: List.replicate (n + 1) '#'

structure WrittenHeading where
  level : Nat
  title : List Char
  line : List Char
  written : HeadingLine line level title
  proper : ProperTitle title
  unbroken : Unbroken line

/-- A line with a heading on it, or one that has no part in a heading. -/
inductive Row where
  | heading (h : WrittenHeading)
  | plain (line : List Char) (plain : PlainLine line)

namespace Row

def line : Row → List Char
  | heading h => h.line
  | plain line _ => line

theorem unbroken (row : Row) : Unbroken row.line := by
  cases row with
  | heading h => exact h.unbroken
  | plain line plain => exact plain.unbroken

end Row

/-- The headings that are written in these rows, which begin with line `index`. -/
def writtenFrom : Nat → List Row → List Heading
  | _, [] => []
  | index, .heading h :: rest => ⟨h.title, h.level, index⟩ :: writtenFrom (index + 1) rest
  | index, .plain _ _ :: rest => writtenFrom (index + 1) rest

/-! ### Lines without a heading -/

/-- A line with a title of blanks only has the form too: its last blank counts as the title. -/
theorem SignLine.exists_headingLine {line gap body : List Char} {level : Nat}
    (parts : SignLine line level gap body) (more : 2 ≤ gap.length ∨ body ≠ []) :
    ∃ title, HeadingLine line level title := by
  obtain ⟨spaces, few, spelled⟩ := parts.spelled
  by_cases nothing : body = []
  · have long := more.resolve_right (absurd nothing)
    rcases List.eq_nil_or_concat' gap with rfl | ⟨front, c, rfl⟩
    · exact absurd rfl parts.apart
    · have blank := (List.forall_mem_append.mp parts.blank).1
      have apart : front ≠ [] := by
        rintro rfl
        simp at long
      refine ⟨[c], parts.level_pos, parts.level_le, by simp, spaces, few, front, [], apart, blank,
        .blanks (by simp), ?_⟩
      rw [spelled, nothing]
      simp
  · obtain ⟨named, closing, same, closes⟩ := exists_titleOf_append nothing
    refine ⟨titleOf body, parts.level_pos, parts.level_le, named, spaces, few, gap, closing,
      parts.apart, parts.blank, closes, ?_⟩
    rw [← same, spelled]

/-- The blanks with which a title begins belong to those before it. -/
theorem HeadingLine.exists_signLine {line title : List Char} {level : Nat}
    (form : HeadingLine line level title) :
    ∃ gap body, SignLine line level gap body ∧ (2 ≤ gap.length ∨ body ≠ []) := by
  obtain ⟨spaces, few, gap, closing, apart, blank, _, spelled⟩ := form.spelled
  have parts := List.takeWhile_append_dropWhile (p := isBlank) (l := title ++ closing)
  refine ⟨gap ++ (title ++ closing).takeWhile isBlank, (title ++ closing).dropWhile isBlank,
    ⟨form.level_pos, form.level_le, by simp [apart], ?_, Text.head?_dropWhile_isBlank _, spaces, few,
      ?_⟩, ?_⟩
  · intro c met
    rcases List.mem_append.mp met with before | first
    · exact blank c before
    · exact List.mem_takeWhile_imp first
  · rw [List.append_assoc, parts, spelled]
  · by_cases nothing : (title ++ closing).dropWhile isBlank = []
    · left
      rw [nothing, List.append_nil] at parts
      have some := List.length_pos_iff.mpr apart
      have named := List.length_pos_iff.mpr form.named
      rw [List.length_append, parts, List.length_append]
      omega
    · exact .inr nothing

theorem numbered?_eq_none_iff {line : List Char} :
    numbered? line = none ↔ ∀ level title, ¬ HeadingLine line level title := by
  constructor
  · intro unnumbered level title form
    obtain ⟨gap, body, parts, more⟩ := form.exists_signLine
    rw [parts.numbered?_eq] at unnumbered
    by_cases nothing : body = []
    · rw [if_pos nothing, if_pos (more.resolve_right (absurd nothing))] at unnumbered
      cases unnumbered
    · rw [if_neg nothing] at unnumbered
      cases unnumbered
  · intro other
    cases found : numbered? line with
    | none => rfl
    | some heading =>
      obtain ⟨gap, body, parts, more⟩ := numbered?_eq_some_iff.mp found
      have long : 2 ≤ gap.length ∨ body ≠ [] := more.imp (·.2.1) (·.1)
      obtain ⟨title, form⟩ := parts.exists_headingLine long
      exact absurd form (other _ title)

/-- Whether there is a run of the mark, and blanks behind it. -/
def underlines (mark : Char) (line : List Char) : Bool :=
  let (n, tail) := runOf mark (unindent line)
  n != 0 && tail.all isBlank

theorem underlines_iff {mark : Char} (solid : isBlank mark = false) {line : List Char} :
    underlines mark line = true ↔ UnderlineOf mark line := by
  have split : underlines mark line = true ↔ (runOf mark (unindent line)).1 ≠ 0 ∧
      ∀ c ∈ (runOf mark (unindent line)).2, isBlank c = true := by
    simp [underlines]
  rw [split]
  constructor
  · rintro ⟨some, blank⟩
    obtain ⟨spaces, few, spelled⟩ := exists_spaces line
    obtain ⟨n, size⟩ := Nat.exists_eq_add_one_of_ne_zero some
    refine ⟨spaces, few, n, _, blank, ?_⟩
    rw [← size, ← (eq_of_runOf mark (unindent line)).1, ← spelled]
  · rintro ⟨spaces, few, n, tail, blank, rfl⟩
    have ended : tail.head? ≠ some mark := by
      intro again
      rw [blank mark (List.mem_of_mem_head? again)] at solid
      cases solid
    have begins : (List.replicate (n + 1) mark ++ tail).head? ≠ some ' ' := by
      rintro ⟨⟩
      exact absurd solid (by decide)
    rw [unindent_append few begins, runOf_append ended]
    exact ⟨Nat.succ_ne_zero n, blank⟩

theorem underlineOf_of_underline? {line : List Char} {level : Nat}
    (found : underline? line = some level) : ∃ mark ∈ ['=', '-'], UnderlineOf mark line := by
  obtain ⟨spaces, few, spelled⟩ := exists_spaces line
  unfold underline? at found
  split at found
  · next mark rest shown =>
    obtain ⟨run, _⟩ := eq_of_runOf mark rest
    simp only at found
    split at found
    · next blank =>
      have known : mark ∈ ['=', '-'] := by
        split at found
        · next same => simp [same]
        · split at found
          · next same => simp [same.1]
          · cases found
      refine ⟨mark, known, spaces, few, (runOf mark rest).1, (runOf mark rest).2,
        List.all_eq_true.mp blank, ?_⟩
      rw [List.replicate_succ, List.cons_append, ← run, ← shown, ← spelled]
    · cases found
  · cases found

theorem fence?_eq_none_iff {line : List Char} :
    fence? line = none ↔ ∀ f info, ¬ FenceLine line f info := by
  simp only [← fence?_eq_some_iff, Option.eq_none_iff_forall_ne_some, Prod.forall, ne_eq]

theorem plainLine_iff {line : List Char} : PlainLine line ↔ Unbroken line ∧ numbered? line = none ∧
    fence? line = none ∧ underlines '=' line = false ∧ underlines '-' line = false := by
  rw [numbered?_eq_none_iff, fence?_eq_none_iff, ← Bool.not_eq_true, ← Bool.not_eq_true,
    underlines_iff rfl, underlines_iff rfl]
  constructor
  · rintro ⟨unbroken, unnumbered, unfenced, loose⟩
    exact ⟨unbroken, unnumbered, unfenced, loose '=' (by simp), loose '-' (by simp)⟩
  · rintro ⟨unbroken, unnumbered, unfenced, loose, loose'⟩
    refine ⟨unbroken, unnumbered, unfenced, ?_⟩
    simp only [List.forall_mem_cons, List.not_mem_nil, false_imp_iff, implies_true, and_true]
    exact ⟨loose, loose'⟩

instance (line : List Char) : Decidable (PlainLine line) := decidable_of_iff _ plainLine_iff.symm

namespace PlainLine

variable {line : List Char}

theorem opens?_eq (plain : PlainLine line) : opens? line = none := by
  rw [opens?, fence?_eq_none_iff.mpr plain.unfenced]

theorem underline?_eq (plain : PlainLine line) : underline? line = none := by
  cases found : underline? line with
  | none => rfl
  | some level =>
    obtain ⟨mark, known, form⟩ := underlineOf_of_underline? found
    exact absurd form (plain.loose mark known)

end PlainLine

/-! ### Lines with a heading -/

namespace ProperTitle

variable {title : List Char}

/-- What closes the line begins behind the whole title, as the title ends neither in a blank nor in
signs behind one. -/
theorem not_closesTitle {part : List Char} (proper : ProperTitle title) (inside : part <:+ title)
    (more : part ≠ []) (closing : List Char) : ¬ ClosesTitle (part ++ closing) := by
  intro closes
  obtain ⟨before, rfl⟩ := inside
  rcases List.eq_nil_or_concat' part with rfl | ⟨front, last, rfl⟩
  · exact more rfl
  · have solid : isBlank last = false :=
      (Text.strip_eq_self_iff.mp proper.stripped).2 last (by simp)
    rw [List.append_assoc, List.singleton_append] at closes
    obtain ⟨rfl, gap, n, apart, blank, rfl⟩ := closes.signs_before solid
    rcases List.eq_nil_or_concat' gap with rfl | ⟨gap, c, rfl⟩
    · exact apart rfl
    · apply proper.unclosed (before ++ gap) c n (blank c (by simp))
      simp [List.replicate_succ']

theorem titleOf_eq (proper : ProperTitle title) {closing : List Char}
    (closes : ClosesTitle closing) : titleOf (title ++ closing) = title := by
  apply titleOf_append proper.named closes
  intro part inside more
  exact proper.not_closesTitle inside more closing

end ProperTitle

/-- Of stripped titles on one line just those are proper that are read as they are. -/
theorem properTitle_iff {title : List Char} : ProperTitle title ↔
    title ≠ [] ∧ strip title = title ∧ Unbroken title ∧ titleOf title = title := by
  constructor
  · intro proper
    have whole := proper.titleOf_eq (.blanks (by simp : ∀ c ∈ [], isBlank c = true))
    rw [List.append_nil] at whole
    exact ⟨proper.named, proper.stripped, proper.unbroken, whole⟩
  · rintro ⟨named, stripped, unbroken, whole⟩
    refine ⟨named, stripped, unbroken, fun before c n blank same => ?_⟩
    have closes : ClosesTitle ([c] ++ (List.replicate (n + 1) '#' ++ [])) :=
      .signs n (by simp) (by simpa using blank) (by simp)
    rw [List.append_nil, List.singleton_append] at closes
    by_cases first : before = []
    · have solid := (Text.strip_eq_self_iff.mp stripped).1 c (by simp [same, first])
      rw [blank] at solid
      cases solid
    · have shorter := titleOf_isPrefix_of_closes first closes
      rw [← same, whole, same] at shorter
      exact absurd shorter.length_le (by simp)

instance (title : List Char) : Decidable (ProperTitle title) :=
  decidable_of_iff _ properTitle_iff.symm

theorem SignLine.unindent_eq {line gap body : List Char} {level : Nat}
    (parts : SignLine line level gap body) : ∃ rest, unindent line = '#' :: rest := by
  obtain ⟨spaces, few, rfl⟩ := parts.spelled
  obtain ⟨more, rfl⟩ := Nat.exists_eq_add_of_le' parts.level_pos
  rw [unindent_append few (by simp [List.replicate_succ])]
  exact ⟨_, by rw [List.replicate_succ, List.cons_append]⟩

namespace WrittenHeading

variable (h : WrittenHeading)

theorem exists_signLine : ∃ gap closing, SignLine h.line h.level gap (h.title ++ closing) ∧
    ClosesTitle closing := by
  obtain ⟨spaces, few, gap, closing, apart, blank, closes, spelled⟩ := h.written.spelled
  refine ⟨gap, closing, ⟨h.written.level_pos, h.written.level_le, apart, blank, ?_, spaces, few,
    spelled⟩, closes⟩
  rw [List.head?_append_of_ne_nil _ h.proper.named]
  exact (Text.strip_eq_self_iff.mp h.proper.stripped).1

theorem numbered?_eq : numbered? h.line = some (h.level, h.title) := by
  obtain ⟨gap, closing, parts, closes⟩ := h.exists_signLine
  apply numbered?_eq_some_iff.mpr
  refine ⟨gap, h.title ++ closing, parts, .inr ⟨by simp [h.proper.named], ?_⟩⟩
  rw [h.proper.titleOf_eq closes, h.proper.stripped]

theorem opens?_eq : opens? h.line = none := by
  obtain ⟨gap, closing, parts, _⟩ := h.exists_signLine
  obtain ⟨rest, begins⟩ := parts.unindent_eq
  simp [opens?, fence?, begins]

theorem underline?_eq : underline? h.line = none := by
  obtain ⟨gap, closing, parts, _⟩ := h.exists_signLine
  obtain ⟨rest, begins⟩ := parts.unindent_eq
  simp [underline?, begins]

end WrittenHeading

/-! ### The scan of rows -/

theorem Row.underline?_eq (row : Row) : underline? row.line = none := by
  cases row with
  | heading h => exact h.underline?_eq
  | plain line plain => exact plain.underline?_eq

/-- A row takes up its own line only: none underlines the one before it. -/
theorem scan_rows (index : Nat) (rows : List Row) :
    scan none index (rows.map Row.line) = writtenFrom index rows := by
  induction rows generalizing index with
  | nil => rfl
  | cons row rest ih =>
    cases row with
    | heading h =>
      rw [List.map_cons, writtenFrom, ← ih]
      exact scan_numbered h.opens?_eq h.numbered?_eq
    | plain line plain =>
      have unnumbered := numbered?_eq_none_iff.mpr plain.unnumbered
      rw [List.map_cons, writtenFrom, ← ih]
      cases rest with
      | nil => exact scan_last plain.opens?_eq unnumbered
      | cons below rest =>
        apply scan_text plain.opens?_eq unnumbered
        rw [below.underline?_eq, ite_self]

/-- The headings of some rows are those written in them, each with its level, its title and the
index of its row; and so they are of a text whose lines these rows are. -/
theorem headings_of_rows (rows : List Row) :
    headings (rows.map Row.line) = writtenFrom 0 rows ∧
    ∀ b ∈ Text.lineBreaks, rows ≠ [] →
      headings (Text.lineTexts (b.intercalate (rows.map Row.line))) = writtenFrom 0 rows := by
  have found : headings (rows.map Row.line) = writtenFrom 0 rows := scan_rows 0 rows
  refine ⟨found, fun b known some => ?_⟩
  have more : rows.map Row.line ≠ [] := by simpa using some
  have unbroken : ∀ line ∈ rows.map Row.line, Unbroken line := by
    intro line met
    obtain ⟨row, _, rfl⟩ := List.mem_map.mp met
    exact row.unbroken
  rw [Text.lineTexts_intercalate more unbroken known, found]

/-- Titles with number signs at either end, a blank that is no space, and closing signs. -/
theorem headings_of_rows_with_signs_in_titles : ∃ rows : List Row, rows ≠ [] ∧
    rows.map Row.line = ["  ##\u00a0C# ##  ", "-x", "# #", "### # a # b\t"].map String.toList ∧
    headings (rows.map Row.line) =
      [⟨"C#".toList, 2, 0⟩, ⟨"#".toList, 1, 2⟩, ⟨"# a # b".toList, 3, 3⟩] ∧
    headings (Text.lineTexts (['\r', '\n'].intercalate (rows.map Row.line))) =
      [⟨"C#".toList, 2, 0⟩, ⟨"#".toList, 1, 2⟩, ⟨"# a # b".toList, 3, 3⟩] := by
  have signs : ClosesTitle ([' '] ++ (List.replicate 2 '#' ++ [' ', ' '])) :=
    .signs 1 nofun (List.all_eq_true.mp rfl) (List.all_eq_true.mp rfl)
  let first : WrittenHeading := ⟨2, "C#".toList, "  ##\u00a0C# ##  ".toList,
    ⟨by decide, by decide, by decide, 2, by decide, ['\u00a0'], _, nofun, List.all_eq_true.mp rfl,
      signs, rfl⟩, by decide, by decide⟩
  let second : WrittenHeading := ⟨1, "#".toList, "# #".toList,
    ⟨by decide, by decide, by decide, 0, by decide, [' '], [], nofun, List.all_eq_true.mp rfl,
      .blanks nofun, rfl⟩, by decide, by decide⟩
  let third : WrittenHeading := ⟨3, "# a # b".toList, "### # a # b\t".toList,
    ⟨by decide, by decide, by decide, 0, by decide, [' '], ['\t'], nofun, List.all_eq_true.mp rfl,
      .blanks (List.all_eq_true.mp rfl), rfl⟩, by decide, by decide⟩
  let rows : List Row :=
    [.heading first, .plain "-x".toList (by decide), .heading second, .heading third]
  have more : rows ≠ [] := List.cons_ne_nil _ _
  obtain ⟨found, inText⟩ := headings_of_rows rows
  exact ⟨rows, more, rfl, found, inText _ (by decide) more⟩

end OpenDocs.Headings
