import OpenDocs.Program.Pattern

/-!
# What a pattern can match

A pattern stands for the token sequences it describes, with the trees of its nodes. What is found by
the search, which keeps what it found for each rule, is among them.
-/

namespace OpenDocs.Program

section
variable {Rule : Type}

section
variable (grammar : Rule → Pattern Rule) (tokens : Array Token)

/-- The pattern describes the tokens from the first place up to the second, and these trees. Which
alternative comes first, and what must not follow, is left open. -/
inductive Matches : Pattern Rule → Nat → Nat → List Tree → Prop
  | word {text : String} {i : Nat} {t : Token} : tokens[i]? = some t → t.kind = .word →
      t.text = text → Matches (.word text) i (i + 1) []
  | soft {text : String} {i : Nat} {t : Token} : tokens[i]? = some t → t.kind = .name →
      t.text = text → Matches (.soft text) i (i + 1) []
  | kind {k : TokenKind} {i : Nat} {t : Token} : tokens[i]? = some t → t.kind = k →
      Matches (.kind k) i (i + 1) []
  | imaginary {wanted : Bool} {i : Nat} {t : Token} : tokens[i]? = some t → t.kind = .number →
      isImaginary t.text = wanted → Matches (.imaginary wanted) i (i + 1) []
  | rule {r : Rule} {i j : Nat} {trees : List Tree} : Matches (grammar r) i j trees →
      Matches (.rule r) i j trees
  | empty {i : Nat} : Matches (.seq []) i i []
  | seq {p : Pattern Rule} {ps : List (Pattern Rule)} {i j k : Nat} {trees more : List Tree} :
      Matches p i j trees → Matches (.seq ps) j k more →
      Matches (.seq (p :: ps)) i k (trees ++ more)
  | alt {p : Pattern Rule} {ps : List (Pattern Rule)} {i j : Nat} {trees : List Tree} : p ∈ ps →
      Matches p i j trees → Matches (.alt ps) i j trees
  | none {p : Pattern Rule} {i : Nat} : Matches (.many p) i i []
  | many {p : Pattern Rule} {i j k : Nat} {trees more : List Tree} : Matches p i j trees →
      Matches (.many p) j k more → Matches (.many p) i k (trees ++ more)
  | ahead {p : Pattern Rule} {i j : Nat} {trees : List Tree} : Matches p i j trees →
      Matches (.ahead p) i i []
  | notAhead {p : Pattern Rule} {i : Nat} : Matches (.notAhead p) i i []
  | node {tag : Tag} {p : Pattern Rule} {i j : Nat} {trees : List Tree} : Matches p i j trees →
      Matches (.node tag p) i j [.node tag i j trees]
  | single {tag : Tag} {p : Pattern Rule} {i j : Nat} {tree : Tree} : Matches p i j [tree] →
      Matches (.fold tag p) i j [tree]
  | fold {tag : Tag} {p : Pattern Rule} {i j : Nat} {trees : List Tree} : Matches p i j trees →
      Matches (.fold tag p) i j [.node tag i j trees]
  | silent {p : Pattern Rule} {i j : Nat} {trees : List Tree} : Matches p i j trees →
      Matches (.silent p) i j []

/-- What was found at a place is matched there. -/
def Fits (p : Pattern Rule) (i : Nat) (found : Option Match) : Prop :=
  ∀ m, found = some m → Matches grammar tokens p i m.stop m.trees

end

variable {grammar : Rule → Pattern Rule} {tokens : Array Token}

theorem takeToken_eq_some_iff {i : Nat} {ok : Token → Bool} {m : Match} :
    takeToken tokens i ok = some m ↔ ∃ t, tokens[i]? = some t ∧ ok t = true ∧ m = ⟨i + 1, []⟩ := by
  unfold takeToken
  constructor
  · intro found
    split at found
    · next t here =>
      split at found
      · next passed => exact ⟨t, here, passed, (Option.some.inj found).symm⟩
      · cases found
    · cases found
  · rintro ⟨t, here, passed, rfl⟩
    rw [here]
    exact if_pos passed

theorem Fits.of_none {p : Pattern Rule} {i : Nat} : Fits grammar tokens p i none :=
  fun _ found => by cases found

theorem Fits.some {p : Pattern Rule} {i : Nat} {m : Match}
    (matched : Matches grammar tokens p i m.stop m.trees) : Fits grammar tokens p i (some m) := by
  intro other found
  obtain rfl := Option.some.inj found
  exact matched

theorem Fits.map {p q : Pattern Rule} {i : Nat} {found : Option Match} {f : Match → Match}
    (fits : Fits grammar tokens p i found)
    (matched : ∀ m, Matches grammar tokens p i m.stop m.trees →
      Matches grammar tokens q i (f m).stop (f m).trees) :
    Fits grammar tokens q i (found.map f) := by
  intro m mapped
  obtain ⟨other, held, rfl⟩ := Option.map_eq_some_iff.mp mapped
  exact matched other (fits other held)

end

section
variable {Rule : Type} [BEq Rule] [Hashable Rule]

section
variable (grammar : Rule → Pattern Rule) (tokens : Array Token)

/-- What is kept of a rule is what it matches. -/
def Kept (found : Found Rule) : Prop :=
  ∀ (r : Rule) (i : Nat) (kept : Option Match), found[(r, i)]? = some kept →
    Fits grammar tokens (.rule r) i kept

/-- The search ends in what is asked for, and leaves what is kept in order. -/
def Ends {Result : Type} (search : StateM (Found Rule) Result) (good : Result → Prop) : Prop :=
  ∀ found, Kept grammar tokens found →
    good (search.run found).1 ∧ Kept grammar tokens (search.run found).2

end

variable {grammar : Rule → Pattern Rule} {tokens : Array Token}

theorem Ends.pure {Result : Type} {good : Result → Prop} {result : Result} (held : good result) :
    Ends grammar tokens (Pure.pure result) good :=
  fun _ kept => ⟨held, kept⟩

theorem Ends.bind {First Second : Type} {search : StateM (Found Rule) First}
    {next : First → StateM (Found Rule) Second} {good : First → Prop} {good' : Second → Prop}
    (ends : Ends grammar tokens search good)
    (ends' : ∀ result, good result → Ends grammar tokens (next result) good') :
    Ends grammar tokens (search >>= next) good' := by
  intro found kept
  obtain ⟨held, kept⟩ := ends found kept
  exact ends' _ held _ kept

theorem Ends.imp {Result : Type} {search : StateM (Found Rule) Result} {good good' : Result → Prop}
    (ends : Ends grammar tokens search good) (weaker : ∀ result, good result → good' result) :
    Ends grammar tokens search good' :=
  fun found kept => (ends found kept).imp_left (weaker _)

theorem Ends.get : Ends grammar tokens MonadState.get (Kept grammar tokens) :=
  fun _ kept => ⟨kept, kept⟩

theorem Ends.change {f : Found Rule → Found Rule}
    (changed : ∀ found, Kept grammar tokens found → Kept grammar tokens (f found)) :
    Ends grammar tokens (modify f) fun _ => True :=
  fun found kept => ⟨trivial, changed found kept⟩

variable [LawfulBEq Rule]

theorem Kept.insert {found : Found Rule} {r : Rule} {i : Nat} {result : Option Match}
    (kept : Kept grammar tokens found) (fits : Fits grammar tokens (.rule r) i result) :
    Kept grammar tokens (found.insert (r, i) result) := by
  intro q j other held
  rw [Std.HashMap.getElem?_insert] at held
  split at held
  · next same =>
    obtain ⟨rfl, rfl⟩ := Prod.mk.inj (eq_of_beq same)
    obtain rfl := Option.some.inj held
    exact fits
  · exact kept q j other held

/-- The search for a pattern ends in what the pattern matches. -/
theorem matchAt_ends (fuel : Nat) (p : Pattern Rule) (i : Nat) :
    Ends grammar tokens (matchAt grammar tokens fuel p i) (Fits grammar tokens p i) := by
  induction fuel generalizing p i with
  | zero => exact .pure .of_none
  | succ fuel ih =>
    cases p with
    | word text =>
      refine .pure fun m found => ?_
      obtain ⟨t, here, passed, rfl⟩ := takeToken_eq_some_iff.mp found
      obtain ⟨kind, same⟩ := Bool.and_eq_true_iff.mp passed
      exact .word here (eq_of_beq kind) (eq_of_beq same)
    | soft text =>
      refine .pure fun m found => ?_
      obtain ⟨t, here, passed, rfl⟩ := takeToken_eq_some_iff.mp found
      obtain ⟨kind, same⟩ := Bool.and_eq_true_iff.mp passed
      exact .soft here (eq_of_beq kind) (eq_of_beq same)
    | kind k =>
      refine .pure fun m found => ?_
      obtain ⟨t, here, passed, rfl⟩ := takeToken_eq_some_iff.mp found
      exact .kind here (eq_of_beq passed)
    | imaginary wanted =>
      refine .pure fun m found => ?_
      obtain ⟨t, here, passed, rfl⟩ := takeToken_eq_some_iff.mp found
      obtain ⟨kind, same⟩ := Bool.and_eq_true_iff.mp passed
      exact .imaginary here (eq_of_beq kind) (eq_of_beq same)
    | rule r =>
      refine Ends.get.bind fun found kept => ?_
      cases held : found[(r, i)]? with
      -- An earlier search left this, maybe with other fuel: only the invariant tells what it is.
      | some result => exact .pure (kept r i result held)
      | none =>
        refine (ih (grammar r) i).bind fun result fits => ?_
        have fits : Fits grammar tokens (.rule r) i result := fun m found => .rule (fits m found)
        exact (Ends.change fun _ kept => kept.insert fits).bind fun _ _ => .pure fits
    | seq ps =>
      cases ps with
      | nil => exact .pure (.some .empty)
      | cons p ps =>
        refine (ih p i).bind fun first fits => ?_
        cases first with
        | none => exact .pure .of_none
        | some m =>
          refine (ih (.seq ps) m.stop).bind fun second fits' => ?_
          cases second with
          | none => exact .pure .of_none
          | some m' => exact .pure (.some (.seq (fits m rfl) (fits' m' rfl)))
    | alt ps =>
      cases ps with
      | nil => exact .pure .of_none
      | cons p ps =>
        refine (ih p i).bind fun first fits => ?_
        cases first with
        | some m => exact .pure (.some (.alt List.mem_cons_self (fits m rfl)))
        | none =>
          refine (ih (.alt ps) i).imp fun second fits m found => ?_
          cases fits m found with
          | alt met matched => exact .alt (List.mem_cons_of_mem p met) matched
    | many p =>
      refine (ih p i).bind fun first fits => ?_
      cases first with
      | none => exact .pure (.some .none)
      | some m =>
        -- The repetition may end here, as nothing was taken or nothing more is found.
        have once : Matches grammar tokens (.many p) i m.stop (m.trees ++ []) :=
          .many (fits m rfl) .none
        rw [List.append_nil] at once
        dsimp only
        split
        · exact .pure (.some once)
        · refine (ih (.many p) m.stop).bind fun second fits' => ?_
          cases second with
          | none => exact .pure (.some once)
          | some m' => exact .pure (.some (.many (fits m rfl) (fits' m' rfl)))
    | ahead p => exact (ih p i).bind fun _ fits => .pure (fits.map fun _ matched => .ahead matched)
    | notAhead p =>
      refine (ih p i).bind fun found _ => ?_
      cases found with
      | some m => exact .pure .of_none
      | none => exact .pure (.some .notAhead)
    | node tag p =>
      exact (ih p i).bind fun _ fits => .pure (fits.map fun _ matched => .node matched)
    | fold tag p =>
      refine (ih p i).bind fun found fits => .pure (fits.map fun m matched => ?_)
      split
      · next tree only => exact .single (only ▸ matched)
      · exact .fold matched
    | silent p =>
      exact (ih p i).bind fun _ fits => .pure (fits.map fun _ matched => .silent matched)

/-- The trees of a parsed program are those of the rule it was parsed by. -/
theorem matches_of_parse? {r : Rule} {trees : List Tree}
    (parsed : parse? grammar tokens r = some trees) :
    ∃ stop, Matches grammar tokens (.rule r) 0 stop trees := by
  obtain ⟨m, found, rfl⟩ := Option.map_eq_some_iff.mp parsed
  have nothing : Kept grammar tokens (∅ : Found Rule) := fun q j kept held => by
    rw [Std.HashMap.getElem?_empty] at held
    cases held
  exact ⟨m.stop, (matchAt_ends _ (.rule r) 0 ∅ nothing).1 m found⟩

end

end OpenDocs.Program
