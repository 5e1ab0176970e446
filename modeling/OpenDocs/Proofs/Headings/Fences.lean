import OpenDocs.Headings.Section
import OpenDocs.Proofs.Text.Blanks

/-!
# Fenced lines are no headings

The scan goes from one fence to the next, and remembers nothing but the fence it is in. So what lies
between an opening fence and the line that closes it has no part in the headings before and behind.
-/

namespace OpenDocs.Headings

/-! ### Lines that open or close a fence -/

/-- At most three spaces, then the marks of the fence, and behind them something that does not begin
with another. -/
structure FenceLine (line : List Char) (f : Fence) (info : List Char) : Prop where
  marked : f.mark = '`' ∨ f.mark = '~'
  long : 3 ≤ f.length
  ended : info.head? ≠ some f.mark
  spelled : ∃ spaces ≤ 3,
    line = List.replicate spaces ' ' ++ (List.replicate f.length f.mark ++ info)

/-- The line has a fence of the same mark, at least as long, and nothing but blanks behind it. -/
def Closes (f : Fence) (line : List Char) : Prop :=
  ∃ g info, FenceLine line g info ∧ g.mark = f.mark ∧ f.length ≤ g.length ∧
    ∀ c ∈ info, Text.isBlank c = true

theorem takeWhile_eq_replicate (mark : Char) (cs : List Char) :
    cs.takeWhile (· == mark) = List.replicate (cs.takeWhile (· == mark)).length mark := by
  apply List.eq_replicate_of_mem
  intro c met
  simpa using List.mem_takeWhile_imp met

theorem runOf_append {mark : Char} {rest : List Char} (ended : rest.head? ≠ some mark) (n : Nat) :
    runOf mark (List.replicate n mark ++ rest) = (n, rest) := by
  induction n with
  | zero => cases rest <;> simp_all [runOf]
  | succ n ih => simp_all [runOf, List.replicate_succ]

theorem eq_of_runOf (mark : Char) (cs : List Char) :
    cs = List.replicate (runOf mark cs).1 mark ++ (runOf mark cs).2 ∧
      (runOf mark cs).2.head? ≠ some mark := by
  constructor
  · rw [runOf, ← takeWhile_eq_replicate, List.takeWhile_append_dropWhile]
  · intro again
    have other := List.head?_dropWhile_not (p := (· == mark)) (l := cs)
    simp_all [runOf]

theorem unindent_append {spaces : Nat} {rest : List Char} (few : spaces ≤ 3)
    (solid : rest.head? ≠ some ' ') : unindent (List.replicate spaces ' ' ++ rest) = rest := by
  have run := congrArg Prod.fst (runOf_append solid spaces)
  simp only [runOf] at run
  rw [unindent, run, Nat.min_eq_left few]
  exact List.drop_left' List.length_replicate

theorem exists_spaces (line : List Char) :
    ∃ spaces ≤ 3, line = List.replicate spaces ' ' ++ unindent line := by
  have parts := List.takeWhile_append_dropWhile (p := (· == ' ')) (l := line)
  rw [takeWhile_eq_replicate] at parts
  refine ⟨min (line.takeWhile (· == ' ')).length 3, Nat.min_le_right _ _, ?_⟩
  rw [unindent]
  generalize (line.takeWhile (· == ' ')).length = run at parts ⊢
  have spaces : line.take (min run 3) = List.replicate (min run 3) ' ' := by
    have short : min run 3 ≤ run := Nat.min_le_left run 3
    have inside : min run 3 ≤ (List.replicate run ' ').length := by rwa [List.length_replicate]
    rw [← parts, List.take_append_of_le_length inside, List.take_replicate, Nat.min_eq_left short]
  rw [← spaces, List.take_append_drop]

theorem fence?_eq_some_iff {line info : List Char} {f : Fence} :
    fence? line = some (f, info) ↔ FenceLine line f info := by
  constructor
  · intro found
    obtain ⟨spaces, few, spelled⟩ := exists_spaces line
    unfold fence? at found
    split at found
    · next mark rest shown =>
      split at found
      · next marked =>
        obtain ⟨same, ended⟩ := eq_of_runOf mark rest
        dsimp only at found
        split at found
        · next long =>
          cases found
          refine ⟨marked, by simp only; omega, ended, spaces, few, ?_⟩
          rw [spelled, shown]
          simp only [List.replicate_succ, List.cons_append, ← same]
        · cases found
      · cases found
    · cases found
  · rintro ⟨marked, long, ended, spaces, few, rfl⟩
    obtain ⟨mark, length⟩ := f
    simp only at marked long ended
    obtain ⟨more, rfl⟩ := Nat.exists_eq_add_of_le' (Nat.le_of_succ_le long)
    have solid : mark ≠ ' ' := by rcases marked with rfl | rfl <;> decide
    rw [List.replicate_succ, List.cons_append, fence?, unindent_append few (by simpa using solid)]
    simp only [runOf_append ended, if_pos marked]
    rw [if_pos (by omega)]

theorem closes_iff {f : Fence} {line : List Char} : closes f line = true ↔ Closes f line := by
  unfold closes Closes
  simp only [← fence?_eq_some_iff]
  cases fence? line with
  | none => simp
  | some found =>
    obtain ⟨g, info⟩ := found
    simp [Text.strip_eq_nil_iff, List.isEmpty_iff, and_assoc]

instance (f : Fence) (line : List Char) : Decidable (Closes f line) :=
  decidable_of_iff _ closes_iff

theorem underline?_of_opens {line : List Char} {f : Fence} (opened : opens? line = some f) :
    underline? line = none := by
  unfold opens? at opened
  split at opened
  · next g info found =>
    unfold fence? at found
    split at found
    · next mark rest shown =>
      split at found
      · next marked =>
        rw [underline?, shown]
        rcases marked with rfl | rfl <;> simp
      · cases found
    · cases found
  · cases opened

theorem opens?_of_underline {line : List Char} {level : Nat} {blank : Prop} [Decidable blank]
    (underlined : (if blank then none else underline? line) = some level) :
    opens? line = none := by
  cases opened : opens? line with
  | none => rfl
  | some f => simp [underline?_of_opens opened] at underlined

/-! ### One step of the scan -/

/-- The fence that is open behind a line. A line that underlines another leaves it as it is. -/
def fenceAfter : Option Fence → List Char → Option Fence
  | some f, line => if closes f line then none else some f
  | none, line => opens? line

/-- The fence that is open behind the lines, if `fence` is open before them; by `scan_append` it is
the one that the scan goes on with. -/
def fenceBehind (fence : Option Fence) (lines : List (List Char)) : Option Fence :=
  lines.foldl fenceAfter fence

@[simp] theorem fenceBehind_cons (fence : Option Fence) (line : List Char)
    (rest : List (List Char)) :
    fenceBehind fence (line :: rest) = fenceBehind (fenceAfter fence line) rest := rfl

section

variable {line below title : List Char} {f : Fence} {level index : Nat} {rest : List (List Char)}

theorem scan_within : scan (some f) index (line :: rest) =
    scan (if closes f line then none else some f) (index + 1) rest := rfl

/-- Only the last of the cases looks at the line below. -/
theorem scan_outside : scan none index (line :: rest) =
    match opens? line with
    | some f => scan (some f) (index + 1) rest
    | none =>
      match numbered? line with
      | some (level, title) => ⟨title, level, index⟩ :: scan none (index + 1) rest
      | none =>
        match rest with
        | [] => []
        | below :: rest' =>
          match if (Text.strip line).isEmpty then none else underline? below with
          | some level => ⟨Text.strip line, level, index⟩ :: scan none (index + 2) rest'
          | none => scan none (index + 1) (below :: rest') := by
  cases rest with
  | nil | cons => exact (scan.eq_def ..).trans rfl

theorem scan_opens (opened : opens? line = some f) :
    scan none index (line :: rest) = scan (some f) (index + 1) rest := by
  rw [scan_outside, opened]

theorem scan_numbered (plain : opens? line = none)
    (numbered : numbered? line = some (level, title)) :
    scan none index (line :: rest) = ⟨title, level, index⟩ :: scan none (index + 1) rest := by
  rw [scan_outside, plain, numbered]

theorem scan_last (plain : opens? line = none) (text : numbered? line = none) :
    scan none index [line] = [] := by
  rw [scan_outside, plain, text]

theorem scan_underlined (plain : opens? line = none) (text : numbered? line = none)
    (underlined : (if (Text.strip line).isEmpty then none else underline? below) = some level) :
    scan none index (line :: below :: rest) =
      ⟨Text.strip line, level, index⟩ :: scan none (index + 2) rest := by
  rw [scan_outside, plain, text]
  simp only [underlined]

theorem scan_text (plain : opens? line = none) (text : numbered? line = none)
    (apart : (if (Text.strip line).isEmpty then none else underline? below) = none) :
    scan none index (line :: below :: rest) = scan none (index + 1) (below :: rest) := by
  rw [scan_outside, plain, text]
  simp only [apart]

end

/-! ### Runs of the scan -/

/-- The same heading in a document that begins so many lines earlier. -/
def Heading.shift (n : Nat) (h : Heading) : Heading := { h with line := n + h.line }

theorem scan_add (n : Nat) (fence : Option Fence) (index : Nat) (lines : List (List Char)) :
    scan fence (n + index) lines = (scan fence index lines).map (·.shift n) := by
  fun_induction scan fence index lines with
  | case1 => rfl
  | case2 f index line rest ih => rw [scan_within, ← ih, Nat.add_assoc]
  | case3 index line rest f opened ih => rw [scan_opens opened, ← ih, Nat.add_assoc]
  | case4 index line rest plain level title numbered ih =>
    rw [scan_numbered plain numbered, List.map_cons, ← ih, Nat.add_assoc]
    rfl
  | case5 index line plain text => rw [scan_last plain text, List.map_nil]
  | case6 index line plain text below rest stripped level underlined ih =>
    rw [scan_underlined plain text underlined, List.map_cons, ← ih, Nat.add_assoc]
    rfl
  | case7 index line plain text below rest stripped apart ih =>
    rw [scan_text plain text apart, ← ih, Nat.add_assoc]

/-- What comes behind some lines is scanned by itself, if its first line does not underline the last
of these. -/
theorem scan_append (fence : Option Fence) (index : Nat) (before rest : List (List Char))
    (apart : ∀ line ∈ rest.head?, underline? line = none) :
    scan fence index (before ++ rest) = scan fence index before ++
      scan (fenceBehind fence before) (index + before.length) rest := by
  fun_induction scan fence index before with
  | case1 => rfl
  | case2 f index line others ih =>
    rw [List.cons_append, scan_within, ih, fenceBehind_cons, List.length_cons, Nat.add_right_comm,
      Nat.add_assoc]
    rfl
  | case3 index line others f opened ih =>
    rw [List.cons_append, scan_opens opened, ih, List.length_cons, Nat.add_right_comm,
      Nat.add_assoc]
    simp only [fenceBehind_cons, fenceAfter, opened]
  | case4 index line others plain level title numbered ih =>
    rw [List.cons_append, scan_numbered plain numbered, ih, List.length_cons, Nat.add_right_comm,
      Nat.add_assoc, List.cons_append]
    simp only [fenceBehind_cons, fenceAfter, plain]
  | case5 index line plain text =>
    cases rest with
    | nil =>
      rw [List.append_nil, scan_last plain text]
      rfl
    | cons below rest =>
      have loose := apart below rfl
      rw [List.singleton_append, scan_text plain text (by simp [loose])]
      simp [fenceBehind, fenceAfter, plain]
  | case6 index line plain text below others stripped level underlined ih =>
    rw [List.cons_append, List.cons_append, scan_underlined plain text underlined, ih]
    simp only [fenceBehind_cons, fenceAfter, plain, opens?_of_underline underlined,
      List.cons_append, List.length_cons, Nat.add_assoc, Nat.add_comm 2]
    rfl
  | case7 index line plain text below others stripped loose ih =>
    rw [List.cons_append] at ih
    rw [List.cons_append, List.cons_append, scan_text plain text loose, ih]
    simp only [fenceBehind_cons, fenceAfter, plain, List.length_cons, Nat.add_assoc,
      Nat.add_comm 1]

/-- No line inside a fence is a heading. -/
theorem scan_inside {f : Fence} {body : List (List Char)} (inside : ∀ line ∈ body, ¬ Closes f line)
    (index : Nat) (rest : List (List Char)) :
    scan (some f) index (body ++ rest) = scan (some f) (index + body.length) rest := by
  induction body generalizing index with
  | nil => rfl
  | cons line body ih =>
    obtain ⟨stays, later⟩ := List.forall_mem_cons.mp inside
    rw [List.cons_append, scan_within, if_neg (mt closes_iff.mp stays), ih later,
      List.length_cons, Nat.add_assoc, Nat.add_comm 1]

theorem scan_closes {f : Fence} {closing : List Char} (closed : Closes f closing) (index : Nat)
    (behind : List (List Char)) :
    scan (some f) index (closing :: behind) = scan none (index + 1) behind := by
  rw [scan_within, if_pos (closes_iff.mpr closed)]

/-- The headings above a fence are read by themselves, and the fence begins behind them. -/
theorem headings_append_opens {before rest : List (List Char)} {opening : List Char} {f : Fence}
    (outside : fenceBehind none before = none) (opened : opens? opening = some f) :
    headings (before ++ opening :: rest) =
      headings before ++ scan (some f) (before.length + 1) rest := by
  have apart : ∀ line ∈ (opening :: rest).head?, underline? line = none := by
    simp [underline?_of_opens opened]
  rw [headings, scan_append none 0 before _ apart, outside, scan_opens opened, Nat.zero_add]
  rfl

/-- Whatever stands in a fence, the headings are those before it and those behind it, as if nothing
were between them; and if the fence is not closed, those before it. -/
theorem headings_of_fenced {before body : List (List Char)} {opening : List Char} {f : Fence}
    (outside : fenceBehind none before = none) (opened : opens? opening = some f)
    (inside : ∀ line ∈ body, ¬ Closes f line) :
    headings (before ++ opening :: body) = headings before ∧
    ∀ closing behind, Closes f closing →
      headings (before ++ opening :: (body ++ closing :: behind)) =
        headings before ++ (headings behind).map (·.shift (before.length + body.length + 2)) := by
  constructor
  · have nothing := scan_inside inside (before.length + 1) []
    rw [List.append_nil] at nothing
    rw [headings_append_opens outside opened, nothing]
    exact List.append_nil _
  · intro closing behind closed
    have place : before.length + 1 + body.length + 1 = before.length + body.length + 2 + 0 := by
      omega
    rw [headings_append_opens outside opened, scan_inside inside, scan_closes closed, place,
      scan_add, ← headings]

/-- Other fences, a heading and an underlined line in a fence, which is closed by a longer one. -/
theorem headings_of_fenced_with_others_inside :
    let before := ["# a", "b"].map String.toList
    let opening := "```x".toList
    let body := ["~~~", "``", "# c", "```x", "d", "==="].map String.toList
    (fenceBehind none before = none ∧ opens? opening = some ⟨'`', 3⟩ ∧
      ∀ line ∈ body, ¬ Closes ⟨'`', 3⟩ line) ∧
    Closes ⟨'`', 3⟩ " ````  ".toList ∧
    headings (before ++ opening :: body) = [⟨['a'], 1, 0⟩] ∧
    headings (before ++ opening :: (body ++ " ````  ".toList :: [['e'], ['-', '-']])) =
      [⟨['a'], 1, 0⟩, ⟨['e'], 2, 10⟩] := by
  intro before opening body
  have outside : fenceBehind none before = none := by decide
  have opened : opens? opening = some ⟨'`', 3⟩ := by decide
  have inside : ∀ line ∈ body, ¬ Closes ⟨'`', 3⟩ line := by decide
  have closed : Closes ⟨'`', 3⟩ " ````  ".toList := by decide
  obtain ⟨alone, around⟩ := headings_of_fenced outside opened inside
  exact ⟨⟨outside, opened, inside⟩, closed, alone.trans (by decide),
    (around _ _ closed).trans (by decide)⟩

end OpenDocs.Headings
