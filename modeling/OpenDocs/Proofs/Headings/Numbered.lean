import OpenDocs.Proofs.Headings.Fences

/-!
# Lines that begin with number signs

Such a line is read in one way only: the signs, the blanks behind them, and the shortest title that
leaves nothing but blanks and closing signs.
-/

namespace OpenDocs.Headings

open Text (isBlank strip trimEnd)

/-! ### What closes a title -/

/-- Blanks, or number signs with blanks before them and maybe behind. -/
inductive ClosesTitle : List Char → Prop
  | blanks {tail : List Char} : (∀ c ∈ tail, isBlank c = true) → ClosesTitle tail
  | signs {gap tail : List Char} (n : Nat) : gap ≠ [] → (∀ c ∈ gap, isBlank c = true) →
      (∀ c ∈ tail, isBlank c = true) → ClosesTitle (gap ++ (List.replicate (n + 1) '#' ++ tail))

theorem closesTitle_iff {cs : List Char} : closesTitle cs = true ↔ ClosesTitle cs := by
  constructor
  · intro closed
    unfold closesTitle at closed
    by_cases blank : cs.all isBlank = true
    · exact .blanks (List.all_eq_true.mp blank)
    · simp only [blank, Bool.false_or, Bool.and_eq_true, List.all_eq_true, beq_iff_eq] at closed
      obtain ⟨first, some, signs⟩ := closed
      obtain ⟨tail, parts, behind⟩ := Text.exists_trimEnd_append (cs.dropWhile isBlank)
      have run := List.eq_replicate_of_mem signs
      have gap : cs.takeWhile isBlank ≠ [] := by
        cases cs with
        | nil => cases first
        | cons c cs => simpa using first
      have more : (trimEnd (cs.dropWhile isBlank)).length ≠ 0 := by simpa using some
      obtain ⟨n, size⟩ := Nat.exists_eq_succ_of_ne_zero more
      rw [← List.takeWhile_append_dropWhile (p := isBlank) (l := cs), parts, run, size]
      exact .signs n gap (fun c met => List.mem_takeWhile_imp met) behind
  · intro closed
    cases closed with
    | blanks blank =>
      unfold closesTitle
      rw [List.all_eq_true.mpr blank, Bool.true_or]
    | @signs gap tail n more blank behind =>
      have rest : (gap ++ (List.replicate (n + 1) '#' ++ tail)).dropWhile isBlank =
          List.replicate (n + 1) '#' ++ tail := by
        apply Text.dropWhile_isBlank_append blank
        simp only [List.replicate_succ, List.cons_append, List.head?_cons, Option.mem_some_iff]
        rintro c rfl
        decide
      have signs : trimEnd (List.replicate (n + 1) '#' ++ tail) = List.replicate (n + 1) '#' := by
        apply Text.trimEnd_append _ behind
        intro c last
        rw [List.eq_of_mem_replicate (List.mem_of_getLast? last)]
        decide
      have first : ((gap ++ (List.replicate (n + 1) '#' ++ tail)).head?.map isBlank).getD false =
          true := by
        obtain ⟨c, gap, rfl⟩ := List.exists_cons_of_ne_nil more
        exact blank c List.mem_cons_self
      simp only [closesTitle, first, rest, signs, Bool.true_and, Bool.or_eq_true]
      right
      simp

/-- What is no blank is a sign, and before it stand a blank and maybe other signs. -/
theorem ClosesTitle.signs_before {front behind : List Char} {c : Char}
    (closes : ClosesTitle (front ++ c :: behind)) (solid : isBlank c = false) :
    c = '#' ∧ ∃ gap n, gap ≠ [] ∧ (∀ b ∈ gap, isBlank b = true) ∧
      front = gap ++ List.replicate n '#' := by
  have foreign : ∀ {blanks : List Char}, (∀ b ∈ blanks, isBlank b = true) → c ∉ blanks := by
    intro blanks blank met
    rw [blank c met] at solid
    cases solid
  generalize same : front ++ c :: behind = whole at closes
  cases closes with
  | blanks blank =>
    subst same
    exact absurd (List.mem_append_right front List.mem_cons_self) (foreign blank)
  | @signs gap tail n more blank last =>
    -- The code point is in the blanks before the signs, in the signs, or in the blanks behind.
    rcases List.append_eq_append_iff.mp same with ⟨later, rfl, rest⟩ | ⟨run, rfl, rest⟩
    · cases later with
      | nil =>
        rw [List.append_nil] at more blank
        exact ⟨(List.cons.inj rest).1, front, 0, more, blank, (List.append_nil front).symm⟩
      | cons b later =>
        obtain ⟨rfl, _⟩ := List.cons.inj rest
        exact absurd (List.mem_append_right front List.mem_cons_self) (foreign blank)
    · rcases List.append_eq_append_iff.mp rest with ⟨signs, _, here⟩ | ⟨signs, whole, here⟩
      · rw [here] at last
        exact absurd (List.mem_append_right signs List.mem_cons_self) (foreign last)
      · cases signs with
        | nil =>
          rw [List.nil_append] at here
          rw [← here] at last
          exact absurd List.mem_cons_self (foreign last)
        | cons sign signs =>
          obtain ⟨rfl, _⟩ := List.cons.inj here
          have all : ∀ b ∈ run ++ c :: signs, b = '#' := by
            intro b met
            rw [← whole] at met
            exact List.eq_of_mem_replicate met
          obtain ⟨first, own⟩ := List.forall_mem_append.mp all
          exact ⟨own c List.mem_cons_self, gap, run.length, more, blank,
            congrArg (gap ++ ·) (List.eq_replicate_of_mem first)⟩

/-! ### The shortest title -/

theorem exists_titleOf_append {cs : List Char} (more : cs ≠ []) :
    titleOf cs ≠ [] ∧ ∃ closing, cs = titleOf cs ++ closing ∧ ClosesTitle closing := by
  induction cs with
  | nil => contradiction
  | cons c rest ih =>
    rw [titleOf]
    by_cases closed : closesTitle rest = true
    · rw [if_pos closed]
      exact ⟨by simp, rest, rfl, closesTitle_iff.mp closed⟩
    · rw [if_neg closed]
      have later : rest ≠ [] := by
        rintro rfl
        exact closed rfl
      obtain ⟨_, closing, parts, closes⟩ := ih later
      exact ⟨by simp, closing, congrArg (c :: ·) parts, closes⟩

/-- No title that leaves only what closes it is shorter. -/
theorem titleOf_isPrefix_of_closes {title closing : List Char} (more : title ≠ [])
    (closes : ClosesTitle closing) : titleOf (title ++ closing) <+: title := by
  induction title with
  | nil => contradiction
  | cons c rest ih =>
    rw [List.cons_append, titleOf]
    by_cases closed : closesTitle (rest ++ closing) = true
    · rw [if_pos closed]
      exact ⟨rest, rfl⟩
    · rw [if_neg closed]
      apply List.cons_prefix_cons.mpr
      refine ⟨rfl, ih ?_⟩
      rintro rfl
      exact closed (closesTitle_iff.mpr closes)

/-- A title is found again if what closes it begins no earlier. -/
theorem titleOf_append {title closing : List Char} (named : title ≠ [])
    (closes : ClosesTitle closing)
    (stays : ∀ part, part <:+ title → part ≠ [] → ¬ ClosesTitle (part ++ closing)) :
    titleOf (title ++ closing) = title := by
  obtain ⟨part, whole⟩ := titleOf_isPrefix_of_closes named closes
  by_cases nothing : part = []
  · rwa [nothing, List.append_nil] at whole
  · exfalso
    have more : title ++ closing ≠ [] := by simp [named]
    obtain ⟨_, rest, parts, shut⟩ := exists_titleOf_append more
    apply stays part ⟨_, whole⟩ nothing
    nth_rewrite 1 [← whole] at parts
    rw [List.append_assoc] at parts
    rwa [List.append_cancel_left parts]

/-! ### The parts of the line -/

/-- At most three spaces, one to six number signs, blanks, and behind them something that does not
begin with a blank. -/
structure SignLine (line : List Char) (level : Nat) (gap body : List Char) : Prop where
  level_pos : 1 ≤ level
  level_le : level ≤ 6
  apart : gap ≠ []
  blank : ∀ c ∈ gap, isBlank c = true
  solid : ∀ c ∈ body.head?, isBlank c = false
  spelled : ∃ spaces ≤ 3,
    line = List.replicate spaces ' ' ++ (List.replicate level '#' ++ (gap ++ body))

theorem head?_ne_sign {gap : List Char} (apart : gap ≠ [])
    (blank : ∀ c ∈ gap, isBlank c = true) (body : List Char) : (gap ++ body).head? ≠ some '#' := by
  obtain ⟨c, gap, rfl⟩ := List.exists_cons_of_ne_nil apart
  intro sign
  have here := blank c List.mem_cons_self
  rw [Option.some.inj sign] at here
  exact absurd here (by decide)

theorem SignLine.numbered?_eq {line gap body : List Char} {level : Nat}
    (parts : SignLine line level gap body) :
    numbered? line = if body = [] then (if 2 ≤ gap.length then some (level, []) else none)
      else some (level, strip (titleOf body)) := by
  obtain ⟨spaces, few, rfl⟩ := parts.spelled
  obtain ⟨more, rfl⟩ := Nat.exists_eq_add_of_le' parts.level_pos
  have begins : (List.replicate (more + 1) '#' ++ (gap ++ body)).head? ≠ some ' ' := by
    simp [List.replicate_succ]
  have signs := runOf_append (head?_ne_sign parts.apart parts.blank body) (more + 1)
  have blanks : (gap ++ body).length - body.length = gap.length := by simp
  have some : gap.length ≠ 0 := by simpa using parts.apart
  unfold numbered?
  simp only [unindent_append few begins, signs, blanks,
    Text.dropWhile_isBlank_append parts.blank parts.solid]
  rw [if_pos ⟨parts.level_pos, parts.level_le⟩, if_neg some]
  simp only [List.isEmpty_iff]

theorem exists_signLine {line title : List Char} {level : Nat}
    (found : numbered? line = some (level, title)) : ∃ gap body, SignLine line level gap body := by
  obtain ⟨spaces, few, spelled⟩ := exists_spaces line
  obtain ⟨run, ended⟩ := eq_of_runOf '#' (unindent line)
  unfold numbered? at found
  generalize runOf '#' (unindent line) = signs at found run ended
  obtain ⟨n, rest⟩ := signs
  simp only at found run ended
  have parts := List.takeWhile_append_dropWhile (p := isBlank) (l := rest)
  have size := congrArg List.length parts
  rw [List.length_append] at size
  split at found
  · next bounds =>
    split at found
    · cases found
    · next some =>
      have same : n = level := by
        split at found
        · split at found
          · cases found
            rfl
          · cases found
        · cases found
          rfl
      subst same
      refine ⟨rest.takeWhile isBlank, rest.dropWhile isBlank, bounds.1, bounds.2, ?_, ?_,
        Text.head?_dropWhile_isBlank rest, spaces, few, ?_⟩
      · rw [← List.length_pos_iff]
        omega
      · intro c met
        exact List.mem_takeWhile_imp met
      · rw [parts, ← run, ← spelled]
  · cases found

/-- What a line that begins with number signs says. A blank is the title of a line that has two or
more and nothing behind them, and is not kept. -/
theorem numbered?_eq_some_iff {line title : List Char} {level : Nat} :
    numbered? line = some (level, title) ↔ ∃ gap body, SignLine line level gap body ∧
      (body = [] ∧ 2 ≤ gap.length ∧ title = [] ∨ body ≠ [] ∧ title = strip (titleOf body)) := by
  constructor
  · intro found
    obtain ⟨gap, body, parts⟩ := exists_signLine found
    refine ⟨gap, body, parts, ?_⟩
    rw [parts.numbered?_eq] at found
    by_cases nothing : body = []
    · rw [if_pos nothing] at found
      split at found
      · next long => exact .inl ⟨nothing, long, by cases found; rfl⟩
      · cases found
    · rw [if_neg nothing] at found
      exact .inr ⟨nothing, by cases found; rfl⟩
  · rintro ⟨gap, body, parts, ⟨nothing, long, rfl⟩ | ⟨some, rfl⟩⟩
    · rw [parts.numbered?_eq, if_pos nothing, if_pos long]
    · rw [parts.numbered?_eq, if_neg some]

end OpenDocs.Headings
