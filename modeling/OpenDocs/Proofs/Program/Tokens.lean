import OpenDocs.Program.Lexer
import Mathlib.Tactic.SplitIfs

/-!
# How names are spelled

Whatever else the text of a program holds, the tokens that are names are made of letters, digits and
low lines, and have no controls in them.
-/

namespace OpenDocs.Program

theorem le_of_isNamePart {c : Char} (part : isNamePart c = true) : 0x20 ≤ c.toNat := by
  have above : ∀ d : Char, 0x20 ≤ d.toNat → d ≤ c → 0x20 ≤ c.toNat := fun d low less =>
    Nat.le_trans low (UInt32.le_iff_toNat_le.mp less)
  simp only [isNamePart, isNameStart, isDigit, Bool.or_eq_true, Bool.and_eq_true, decide_eq_true_eq,
    beq_iff_eq] at part
  obtain (((⟨less, _⟩ | ⟨less, _⟩) | rfl) | large) | ⟨less, _⟩ := part
  · exact above 'a' (by decide) less
  · exact above 'A' (by decide) less
  · decide
  · exact Nat.le_trans (by decide) large
  · exact above '0' (by decide) less

/-- What is before the rest of a text from which the first items are dropped. -/
theorem take_sub_length_dropWhile {Item : Type} (p : Item → Bool) (items : List Item) :
    items.take (items.length - (items.dropWhile p).length) = items.takeWhile p := by
  have whole := List.takeWhile_append_dropWhile (p := p) (l := items)
  have length := congrArg List.length whole
  rw [List.length_append] at length
  calc items.take (items.length - (items.dropWhile p).length)
      = (items.takeWhile p ++ items.dropWhile p).take (items.takeWhile p).length := by
        rw [whole, ← length, Nat.add_sub_cancel]
    _ = items.takeWhile p := List.take_left

/-- A name is made of the code points of names. -/
def Token.Spelled (t : Token) : Prop :=
  t.kind = .name → ∀ c ∈ t.text.toList, isNamePart c = true

namespace LexState

def Spelled (s : LexState) : Prop := ∀ t ∈ s.done, t.Spelled

variable {s s' : LexState}

theorem Spelled.add (spelled : s.Spelled) {t : Token} (other : t.Spelled)
    (added : s'.done = t :: s.done) : s'.Spelled := by
  rw [Spelled, added]
  exact List.forall_mem_cons.mpr ⟨other, spelled⟩

theorem Spelled.layout (spelled : s.Spelled) {kind : TokenKind} (other : kind ≠ .name) :
    (s.layout kind).Spelled :=
  spelled.add (fun named => absurd named other) rfl

theorem Spelled.push (spelled : s.Spelled) {kind : TokenKind} (other : kind ≠ .name)
    (rest : List Char) : (s.push kind rest).Spelled :=
  spelled.add (fun named => absurd named other) rfl

theorem Spelled.dedent {i : Indent} {indents : List Indent} (spelled : s.Spelled)
    (closed : LexState.dedent i indents s = some s') : s'.Spelled := by
  induction indents generalizing s with
  | nil =>
    simp only [LexState.dedent] at closed
    split at closed
    · obtain rfl := Option.some.inj closed
      exact spelled
    · cases closed
  | cons open_ outer ih =>
    simp only [LexState.dedent] at closed
    split at closed
    · exact ih (spelled.layout (by decide)) closed
    · split at closed
      · obtain rfl := Option.some.inj closed
        exact spelled
      · cases closed

theorem Spelled.indentTo {i : Indent} (spelled : s.Spelled) (indented : s.indentTo i = some s') :
    s'.Spelled := by
  unfold LexState.indentTo at indented
  dsimp only at indented
  split_ifs at indented
  · obtain rfl := Option.some.inj indented
    exact spelled
  · obtain rfl := Option.some.inj indented
    exact spelled.add (fun named => by cases named) rfl
  · exact spelled.dedent indented

theorem Spelled.startLine (spelled : s.Spelled) (started : s.startLine = some s') :
    s'.Spelled := by
  unfold LexState.startLine at started
  obtain ⟨⟨i, place, rest⟩, _, started⟩ := Option.bind_eq_some_iff.mp started
  dsimp only at started
  split_ifs at started
  · exact Spelled.indentTo (s := { s with place, rest, lineStart := false }) spelled started
  · obtain rfl := Option.some.inj started
    exact spelled
  · obtain rfl := Option.some.inj started
    exact spelled

theorem Spelled.name (spelled : s.Spelled) (read : s.name = some s') : s'.Spelled := by
  unfold LexState.name at read
  dsimp only at read
  split_ifs at read
  · obtain ⟨rest, _, rfl⟩ := Option.map_eq_some_iff.mp read
    exact spelled.push (by decide) rest
  · obtain rfl := Option.some.inj read
    exact spelled.push (by decide) _
  · -- This is the one place where a name is added.
    obtain rfl := Option.some.inj read
    refine spelled.add (fun _ c met => ?_) rfl
    rw [String.toList_ofList, take_sub_length_dropWhile] at met
    exact List.all_eq_true.mp List.all_takeWhile c met

theorem Spelled.bracket {c : Char} (spelled : s.Spelled) (counted : s.bracket c = some s') :
    s'.Spelled := by
  unfold LexState.bracket at counted
  split at counted
  · split at counted
    · obtain rfl := Option.some.inj counted
      exact spelled
    · cases counted
  · split at counted
    · split at counted
      · split at counted
        · obtain rfl := Option.some.inj counted
          exact spelled
        · cases counted
      · cases counted
    · obtain rfl := Option.some.inj counted
      exact spelled

theorem Spelled.operator (spelled : s.Spelled) (read : s.operator = some s') : s'.Spelled := by
  unfold LexState.operator at read
  split at read
  · exact (spelled.push (by decide) _).bracket read
  · obtain rfl := Option.some.inj read
    exact spelled.push (by decide) _
  · cases read

theorem Spelled.step (spelled : s.Spelled) (read : s.step = some s') : s'.Spelled := by
  have pushed : ∀ {kind : TokenKind} {found : Option (List Char)}, kind ≠ .name →
      found.map (s.push kind) = some s' → s'.Spelled := by
    intro kind found other read
    obtain ⟨rest, _, rfl⟩ := Option.map_eq_some_iff.mp read
    exact spelled.push other rest
  unfold LexState.step at read
  split at read
  · cases read
  · split_ifs at read
    · obtain rfl := Option.some.inj read
      exact spelled
    · obtain rfl := Option.some.inj read
      exact spelled
    · obtain rfl := Option.some.inj read
      exact spelled.push (by decide : TokenKind.newline ≠ .name) _
    · obtain rfl := Option.some.inj read
      exact spelled
    · split at read
      · obtain rfl := Option.some.inj read
        exact spelled
      · cases read
    · exact spelled.name read
    · exact pushed (by decide) read
    · exact pushed (by decide) read
    · exact pushed (by decide) read
    · exact spelled.operator read

theorem Spelled.run {fuel : Nat} (spelled : s.Spelled) (read : LexState.run fuel s = some s') :
    s'.Spelled := by
  induction fuel generalizing s with
  | zero => cases read
  | succ fuel ih =>
    unfold LexState.run at read
    split at read
    · split at read
      · obtain ⟨last, closed, rfl⟩ := Option.map_eq_some_iff.mp read
        exact (spelled.indentTo closed).layout (by decide)
      · cases read
    · split at read
      · obtain ⟨next, started, read⟩ := Option.bind_eq_some_iff.mp read
        exact ih (spelled.startLine started) read
      · obtain ⟨next, stepped, read⟩ := Option.bind_eq_some_iff.mp read
        exact ih (spelled.step stepped) read

end LexState

theorem spelled_of_mem_tokens {t : List Char} {tokens : Array Token}
    (found : tokens? t = some tokens) : ∀ token ∈ tokens, token.Spelled := by
  unfold tokens? at found
  split at found
  · cases found
  · obtain ⟨s, read, rfl⟩ := Option.map_eq_some_iff.mp found
    have start : LexState.Spelled ⟨⟨0, 0⟩, t, [], [], true, []⟩ := fun _ none => by cases none
    intro token met
    rw [List.mem_toArray, List.mem_reverse] at met
    exact start.run read token met

end OpenDocs.Program
