import OpenDocs.Proofs.Outline.Visits
import OpenDocs.Proofs.Raw.Spellings

/-!
# Which flaw of an outline is told

Reading fails with the flaw of the first visit that goes wrong, at the path of that visit. On each
level this is the list or its first bad symbol or, where all symbols are good, what is found first
in the last bad list below them. A flaw is told unless something cannot be gone through, or a number
is too long.
-/

namespace OpenDocs.Outline

section

variable {raw item : Raw} {limit : DepthLimit} {items : List Raw} {index levels : Nat}
  {shown : String}

/-! ### One level -/

theorem entryAt_eq_error_iff {path : List Nat} {problem : Problem} :
    entryAt limit path raw = .error problem ↔
      ∃ flaw, problem = .symbol flaw path ∧
        (limit.levels < path.length ∧ flaw = .tooDeep limit.shown ∨
          path.length ≤ limit.levels ∧ Malformed raw flaw) := by
  unfold entryAt
  split
  · next deep => simp [deep, Nat.not_le_of_lt deep, eq_comm]
  · next inside =>
    simp only [malformed_iff, inside, false_and, false_or, Nat.le_of_not_lt inside, true_and]
    cases entry raw with
    | ok node =>
      change Except.ok node = .error problem ↔ _
      simp
    | error flaw =>
      change Except.error (.symbol flaw path) = .error problem ↔ _
      simp [eq_comm]

/-- Symbols are looked at from left to right, up to the first that is bad. -/
theorem entries_eq_error {path : List Nat} {problem : Problem}
    (refused : entries limit path index items = .error problem) :
    ∃ k item, items[k]? = some item ∧
      entryAt limit (path ++ [index + k]) item = .error problem ∧
      ∀ j < k, ∀ other, items[j]? = some other →
        ∃ node, entryAt limit (path ++ [index + j]) other = .ok node := by
  induction items generalizing index with
  | nil => cases refused
  | cons item rest ih =>
    rw [entries] at refused
    cases first : entryAt limit (path ++ [index]) item with
    | error problem' =>
      rw [first] at refused
      obtain rfl := Except.error.inj refused
      exact ⟨0, item, rfl, first, fun j less => absurd less (Nat.not_lt_zero j)⟩
    | ok node =>
      cases behind : entries limit path (index + 1) rest with
      | ok more =>
        rw [first, behind] at refused
        cases refused
      | error problem' =>
        rw [first, behind] at refused
        obtain rfl := Except.error.inj refused
        obtain ⟨k, bad, held, told, good⟩ := ih behind
        rw [Nat.add_right_comm] at told
        refine ⟨k + 1, bad, held, told, fun j less other found => ?_⟩
        cases j with
        | zero =>
          obtain rfl := Option.some.inj found
          exact ⟨node, first⟩
        | succ j =>
          have earlier := good j (Nat.lt_of_succ_lt_succ less) other found
          rwa [Nat.add_right_comm] at earlier

theorem entries_eq_ok {path : List Nat} {level : List (Node × Raw)}
    (read : entries limit path index items = .ok level) :
    ∀ k : Nat, level[k]?.map (·.2) = items[k]?.map (·.field "children") ∧
      ∀ item, items[k]? = some item →
        ∃ node, entryAt limit (path ++ [index + k]) item = .ok node := by
  induction items generalizing index level with
  | nil =>
    cases read
    exact fun k => ⟨rfl, nofun⟩
  | cons raw rest ih =>
    obtain ⟨node, more, first, behind, rfl⟩ := entries_cons_eq_ok_iff.mp read
    intro k
    cases k with
    | zero =>
      refine ⟨rfl, fun item found => ?_⟩
      obtain rfl := Option.some.inj found
      exact ⟨node, first⟩
    | succ k =>
      have later := ih behind k
      rw [Nat.add_right_comm] at later
      exact later

variable {below : Pending → Except Problem (List Node)} {path : List Nat}
  {level : List (Node × Raw)} {problem : Problem}

theorem attach_eq_ok {nodes : List Node} (read : attach below path index level = .ok nodes) :
    ∀ j value, level[j]?.map (·.2) = some value →
      value = .null ∨ ∃ nodes, below ⟨path ++ [index + j], value⟩ = .ok nodes := by
  induction level generalizing index nodes with
  | nil => exact nofun
  | cons x rest ih =>
    obtain ⟨node, raw⟩ := x
    obtain ⟨children, more, inner, behind, _⟩ := attach_cons_eq_ok_iff.mp read
    intro j value found
    cases j with
    | zero =>
      obtain rfl := Option.some.inj found
      split at inner
      · next none => exact .inl (isNull_iff.mp none)
      · exact .inr ⟨children, inner⟩
    | succ j =>
      have later := ih behind j value found
      rwa [Nat.add_right_comm] at later

/-- The lists below a level are read from right to left, up to the first that is bad. -/
theorem attach_eq_error (refused : attach below path index level = .error problem) :
    ∃ k value, level[k]?.map (·.2) = some value ∧
      below ⟨path ++ [index + k], value⟩ = .error problem ∧
      ∀ j, k < j → ∀ other, level[j]?.map (·.2) = some other →
        other = .null ∨ ∃ nodes, below ⟨path ++ [index + j], other⟩ = .ok nodes := by
  induction level generalizing index with
  | nil => cases refused
  | cons x rest ih =>
    obtain ⟨node, value⟩ := x
    rw [attach] at refused
    cases behind : attach below path (index + 1) rest with
    | error problem' =>
      rw [behind] at refused
      obtain rfl := Except.error.inj refused
      obtain ⟨k, bad, held, told, good⟩ := ih behind
      rw [Nat.add_right_comm] at told
      refine ⟨k + 1, bad, held, told, fun j later other found => ?_⟩
      obtain ⟨j, rfl⟩ := Nat.exists_eq_succ_of_ne_zero (Nat.ne_zero_of_lt later)
      have read := good j (Nat.lt_of_succ_lt_succ later) other found
      rwa [Nat.add_right_comm] at read
    | ok more =>
      rw [behind] at refused
      simp only [bind, Except.bind] at refused
      split at refused
      · cases refused
      · split at refused
        · next inner =>
          obtain rfl := Except.error.inj refused
          refine ⟨0, value, rfl, inner, fun j later other found => ?_⟩
          obtain ⟨j, rfl⟩ := Nat.exists_eq_succ_of_ne_zero (Nat.ne_zero_of_lt later)
          have read := attach_eq_ok behind j other found
          rwa [Nat.add_right_comm] at read
        · cases refused

/-! ### All levels -/

theorem Outlines.passes {nodes : List Node} (outlined : Outlines raw nodes)
    (low : height nodes ≤ limit.levels) (visit : Visit) : Passes raw limit visit := by
  cases visit with
  | list path =>
    intro value owned
    cases owned with
    | outermost =>
      obtain ⟨items, listed, _⟩ := outlined
      exact ⟨items, listed⟩
    | children reached => exact (outlined.wellFormed reached).2.listed
  | entry path index =>
    intro item reached
    obtain ⟨short, formed⟩ := outlined.wellFormed reached
    obtain ⟨name, named⟩ := formed.named
    obtain ⟨range, ranged⟩ := formed.ranged
    exact ⟨Nat.le_trans short low, ⟨name, _, range, []⟩, named, hasKind_ofRaw _, ranged⟩

theorem passes_list (listed : Lists raw items) : Passes raw limit (.list []) := by
  intro value owned
  cases owned with
  | outermost => exact ⟨items, listed⟩
  | children reached => exact absurd rfl reached.ne_nil

theorem passes_entry (listed : Lists raw items) (exact : path.length + levels = limit.levels)
    (read : ∀ item, items[index]? = some item →
      ∃ node, entryAt limit (path ++ [index]) item = .ok node) :
    Passes raw ⟨levels, shown⟩ (.entry [] index) := by
  intro found reached
  obtain ⟨item, held, ⟨_, rfl⟩ | deeper⟩ := Reaches.exists_item listed reached
  · obtain ⟨node, told⟩ := read found held
    obtain ⟨short, shown⟩ := entryAt_eq_ok_iff.mp told
    rw [List.length_append, List.length_singleton] at short
    exact ⟨by simp only [List.nil_append, List.length_singleton]; omega, node,
      (entry_eq_ok_iff.mp shown).1⟩
  · exact absurd rfl deeper.ne_nil

/-- Where a level cannot be read, it is the list or one of its symbols that is bad. -/
theorem level_eq_error {p : Pending} (exact : p.path.length + levels = limit.levels)
    (refused : p.level limit = .error problem) :
    ∃ visit flaw, FirstFlaw p.raw ⟨levels, limit.shown⟩ visit flaw ∧
      problem = .symbol flaw (p.path ++ visit.path) := by
  rw [Pending.level] at refused
  split at refused
  · next none =>
    refine ⟨.list [], listFlaw p.raw,
      ⟨.noList .outermost fun items listed => ?_, fun v before => ?_⟩, ?_⟩
    · cases none.symm.trans (items?_eq_some_iff.mpr listed)
    · exact absurd before Visit.not_before_list
    · rw [Visit.path, List.append_nil]
      exact (Except.error.inj refused).symm
  · next items counted =>
    have listed := items?_eq_some_iff.mp counted
    obtain ⟨k, item, held, told, good⟩ := entries_eq_error refused
    rw [Nat.zero_add] at told
    obtain ⟨flaw, rfl, why⟩ := entryAt_eq_error_iff.mp told
    rw [List.length_append, List.length_singleton] at why
    refine ⟨.entry [] k, flaw, ⟨?_, fun v before => ?_⟩, rfl⟩
    · rcases why with ⟨deep, rfl⟩ | ⟨inside, malformed⟩
      · refine .tooDeep (.here listed held) ?_
        simp only [List.nil_append, List.length_singleton]
        omega
      · exact .malformed (.here listed held)
          (by simp only [List.nil_append, List.length_singleton]; omega) malformed
    · rcases Visit.before_entry before with rfl | ⟨j, less, rfl⟩
      · exact passes_list listed
      · refine passes_entry listed exact fun other found => ?_
        have read := good j less other found
        rwa [Nat.zero_add] at read

theorem readDown_eq_error {p : Pending} (exact : p.path.length + levels = limit.levels)
    (refused : readDown limit levels p = .error problem) :
    ∃ visit flaw, FirstFlaw p.raw ⟨levels, limit.shown⟩ visit flaw ∧
      problem = .symbol flaw (p.path ++ visit.path) := by
  induction levels generalizing p problem with
  | zero =>
    cases found : p.level limit with
    | error problem' =>
      rw [readDown, found] at refused
      obtain rfl := Except.error.inj refused
      exact level_eq_error exact found
    | ok level =>
      rw [readDown, found] at refused
      cases refused
  | succ levels ih =>
    cases found : p.level limit with
    | error problem' =>
      rw [readDown, found] at refused
      obtain rfl := Except.error.inj refused
      exact level_eq_error exact found
    | ok level =>
      rw [readDown, found] at refused
      obtain ⟨items, listed, entered⟩ := level_eq_ok_iff.mp found
      have exact' (j : Nat) : (p.path ++ [0 + j]).length + levels = limit.levels := by
        rw [List.length_append, List.length_singleton]
        omega
      obtain ⟨k, value, held, told, good⟩ := attach_eq_error refused
      rw [(entries_eq_ok entered k).1, Option.map_eq_some_iff] at held
      obtain ⟨item, held, rfl⟩ := held
      obtain ⟨visit, flaw, first, rfl⟩ := ih (exact' k) told
      refine ⟨visit.under k, flaw, ⟨first.offends.under listed held, fun v before => ?_⟩, ?_⟩
      · rcases Visit.before_under before with rfl | ⟨j, rfl⟩ | ⟨j, u, later, rfl⟩ | ⟨u, within, rfl⟩
        · exact passes_list listed
        · have read := (entries_eq_ok entered j).2
          rw [Nat.zero_add] at read
          exact passes_entry listed exact read
        · refine passes_under listed fun other found => ?_
          have child : level[j]?.map (·.2) = some (other.field "children") := by
            rw [(entries_eq_ok entered j).1, found, Option.map_some]
          rcases good j later _ child with none | ⟨nodes, read⟩
          · rw [none]
            exact (outlines_null_iff.mpr rfl).passes (Nat.zero_le _) u
          · obtain ⟨outlined, low⟩ := (readDown_eq_ok_iff (exact' j)).mp read
            exact outlined.passes low u
        · refine passes_under listed fun other found => ?_
          obtain rfl := Option.some.inj (held.symm.trans found)
          exact first.earlier u within
      · rw [Visit.path_under, Nat.zero_add, List.append_assoc, List.singleton_append]

end

/-- Reading fails exactly if some visit goes wrong, and then with the flaw of the first one that
does, in the order of visits, told with its path. All visits before it find what they should. -/
theorem read_eq_error_iff (raw : Raw) (limit : DepthLimit) (problem : Problem) :
    read raw limit = .error problem ↔
      ∃ visit flaw, problem = .symbol flaw visit.path ∧ Offends raw limit visit flaw ∧
        ∀ v, Visit.Before v visit → Passes raw limit v := by
  have told {problem : Problem} (refused : read raw limit = .error problem) :
      ∃ visit flaw, FirstFlaw raw limit visit flaw ∧ problem = .symbol flaw visit.path := by
    rw [read_eq_readDown] at refused
    exact readDown_eq_error (Nat.zero_add _) refused
  constructor
  · intro refused
    obtain ⟨visit, flaw, first, rfl⟩ := told refused
    exact ⟨visit, flaw, rfl, first.offends, first.earlier⟩
  · rintro ⟨visit, flaw, rfl, offends, earlier⟩
    cases result : read raw limit with
    | ok nodes =>
      obtain ⟨outlined, low⟩ := read_eq_ok_iff.mp result
      exact absurd (outlined.passes low visit) offends.not_passes
    | error problem =>
      obtain ⟨other, flaw', first, rfl⟩ := told result
      rcases Visit.before_trichotomy visit other with rfl | before | before
      · rw [offends.unique first.offends]
      · exact absurd (first.earlier visit before) offends.not_passes
      · exact absurd (earlier other before) first.offends.not_passes

/-! ### What is raised -/

/-- Why a flaw is not told. -/
inductive Untold : SymbolFlaw → Mishap → Prop
  | symbols : Untold .unlisted .unlisted
  | range (name : String) : Untold (.badRange name .unlisted) .unlisted
  | number (name : String) {flaw : RangeFlaw} {n : Int} : n ∈ flaw.numbers →
      Json.isLong n = true → Untold (.badRange name flaw) .longNumber
  | limit {shown : String} : Json.isLongText shown = true → Untold (.tooDeep shown) .longNumber

/-- What is raised for a flaw at a path. -/
inductive Raises (flaw : SymbolFlaw) (path : List Nat) : Failure → Prop
  | told : (∀ m, ¬ Untold flaw m) → Raises flaw path (.problem (.symbol flaw path))
  | untold {m : Mishap} : Untold flaw m → Raises flaw path (.mishap m)

theorem Raises.unique {flaw : SymbolFlaw} {path : List Nat} {first second : Failure}
    (one : Raises flaw path first) (other : Raises flaw path second) : first = second := by
  cases one with
  | told none =>
    cases other with
    | told => rfl
    | untold held => exact absurd held (none _)
  | untold held =>
    cases other with
    | told none => exact absurd held (none _)
    | untold held' =>
      cases held with
      | symbols => cases held'; rfl
      | range =>
        cases held' with
        | range => rfl
        | number _ said => cases said
      | number _ said =>
        cases held' with
        | range => cases said
        | number => rfl
      | limit => cases held'; rfl

section

variable {raw : Raw} {limit : DepthLimit} {visit : Visit} {flaw : SymbolFlaw}

theorem raises_of_badRange {name : String} {flaw : RangeFlaw} (path : List Nat)
    (refused : raw.toRange = .error flaw) :
    Raises (.badRange name flaw) path (Problem.symbol (.badRange name flaw) path).raised := by
  have same : (Problem.symbol (.badRange name flaw) path).mishap? = flaw.mishap? := rfl
  cases Raw.refusal_of_toRange_error refused with
  | told kind short none =>
    rw [Problem.raised_of_none (same.trans none)]
    refine .told fun m untold => ?_
    cases untold with
    | range => cases none
    | number _ said long => simp [short _ said] at long
  | long kind said long mishap =>
    rw [Problem.raised_of_mishap (same.trans mishap)]
    exact .untold (.number name said long)
  | unlisted held gone =>
    subst gone
    exact .untold (.range name)

theorem Offends.raises (offends : Offends raw limit visit flaw) :
    Raises flaw visit.path (Problem.symbol flaw visit.path).raised := by
  cases offends with
  | @noList path value owned none =>
    cases value with
    | brokenList | brokenStream => exact .untold .symbols
    | _ => exact .told fun m untold => by cases untold
  | @tooDeep path index item reached deep =>
    cases long : Json.isLongText limit.shown with
    | true =>
      rw [Problem.raised_of_mishap (m := .longNumber)
        (by simp [Problem.mishap?, SymbolFlaw.mishap?, long])]
      exact .untold (.limit long)
    | false =>
      rw [Problem.raised_of_none (by simp [Problem.mishap?, SymbolFlaw.mishap?, long])]
      refine .told fun m untold => ?_
      cases untold with
      | limit long' => cases long.symm.trans long'
  | malformed reached inside malformed =>
    cases malformed with
    | empty | nameless | noRange => exact .told fun m untold => by cases untold
    | badRange named present bad => exact raises_of_badRange _ bad

end

theorem flatten_some (raw : Raw) (limit : DepthLimit) :
    flatten raw (some limit) = (read raw limit).mapError Problem.raised := rfl

/-- Symbols are refused exactly if some visit goes wrong, for what the first one finds that does, in
the order of visits. This is told with the path of the visit unless it cannot be told. All visits
before it find what they should. -/
theorem flatten_eq_error_iff (raw : Raw) (limit : DepthLimit) (failure : Failure) :
    flatten raw (some limit) = .error failure ↔
      ∃ visit flaw, Offends raw limit visit flaw ∧
        (∀ v, Visit.Before v visit → Passes raw limit v) ∧ Raises flaw visit.path failure := by
  rw [flatten_some]
  constructor
  · intro refused
    cases found : read raw limit with
    | ok nodes =>
      rw [found] at refused
      cases refused
    | error problem =>
      rw [found] at refused
      obtain rfl := Except.error.inj refused
      obtain ⟨visit, flaw, rfl, offends, earlier⟩ := (read_eq_error_iff raw limit problem).mp found
      exact ⟨visit, flaw, offends, earlier, offends.raises⟩
  · rintro ⟨visit, flaw, offends, earlier, raises⟩
    have found := (read_eq_error_iff raw limit _).mpr ⟨visit, flaw, rfl, offends, earlier⟩
    rw [found]
    exact congrArg Except.error (offends.raises.unique raises)

/-- A depth limit that is no number, a range that cannot be listed, and a number that is too long. -/
theorem flatten_untold :
    let symbol (range : Raw) : Raw := .list [.record [("name", .text "a"), ("range", range)]]
    flatten (.list [.null]) none = .error (.mishap .noDepthLimit) ∧
    flatten (symbol (.endless 0)) (some .default) = .error (.mishap .unlisted) ∧
    flatten (symbol (.list [.int (-(Nat.pow 10 Json.maxDigits)), .int 0, .int 0, .int 0]))
      (some .default) = .error (.mishap .longNumber) := by
  intro symbol
  refine ⟨?_, ?_, ?_⟩
  · simp only [flatten, read_eq_readDown]
    rfl
  · simp only [flatten, read_eq_readDown]
    rfl
  · have below : -(Nat.pow 10 Json.maxDigits : Int) < 0 := by decide +kernel
    have long : Json.isLong (-(Nat.pow 10 Json.maxDigits)) = true := by decide +kernel
    have present (items : List Raw) : Raw.list items ≠ .null := fun same => by cases same
    refine (flatten_eq_error_iff _ _ _).mpr ⟨.entry [] 0, _, .malformed (.here (.list _) rfl)
      (by decide) (.badRange rfl (present _) (Raw.toRange_of_neg below)), fun v before => ?_,
      .untold (.number "a" (List.mem_singleton.mpr rfl) long)⟩
    rcases Visit.before_entry before with rfl | ⟨j, less, rfl⟩
    · exact passes_list (.list _)
    · exact absurd less (Nat.not_lt_zero j)

/-- Both symbols have a bad list below them, and the last one's is read first: in it the second
symbol is missing, which is told before what is wrong with the third. -/
example :
    let range : Raw := .list [.int 0, .int 0, .int 1, .int 0]
    read (.list [
        .record [("name", .text "a"), ("range", range), ("children", .text "b")],
        .record [("name", .text "c"), ("range", range), ("children", .tuple [
          .record [("name", .text "d"), ("range", range)], .null, .text "e"])]]) .default =
      .error (.symbol .empty [1, 1]) := by
  cbv

end OpenDocs.Outline
