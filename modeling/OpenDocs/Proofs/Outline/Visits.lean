import OpenDocs.Proofs.Outline.Reading

/-!
# The order in which an outline is read

Every list and every symbol that can be reached is visited: a list, its symbols from left to right,
and then the lists below them from right to left, each together with all that is below it. A visit
can go wrong in one way at most.
-/

namespace OpenDocs.Outline

/-! ### The order of visits -/

/-- What is looked at, by child indices from the outermost list: whether the symbol at a path has a
list, or one symbol of the list there. -/
inductive Visit where
  | list (path : List Nat)
  | entry (path : List Nat) (index : Nat)

namespace Visit

/-- The path that a problem found by the visit is told with. -/
def path : Visit → List Nat
  | list path => path
  | entry path index => path ++ [index]

/-- A visit in the list of a symbol, seen from the list that the symbol is in. -/
def under (index : Nat) : Visit → Visit
  | list path => list (index :: path)
  | entry path last => entry (index :: path) last

/-- The list itself comes first, then its symbols in their order, then the lists below them, the
last symbol's first, and all of one before any of the next. -/
inductive Before : Visit → Visit → Prop
  | list_entry (index : Nat) : Before (list []) (entry [] index)
  | list_under (index : Nat) (v : Visit) : Before (list []) (v.under index)
  | entry_entry {first second : Nat} : first < second → Before (entry [] first) (entry [] second)
  | entry_under (first second : Nat) (v : Visit) : Before (entry [] first) (v.under second)
  | under_under {first second : Nat} (v w : Visit) : first < second →
      Before (v.under second) (w.under first)
  | inside {v w : Visit} (index : Nat) : Before v w → Before (v.under index) (w.under index)

theorem path_under (index : Nat) (v : Visit) : (v.under index).path = index :: v.path := by
  cases v <;> rfl

theorem under_inj {i j : Nat} {v w : Visit} (same : v.under i = w.under j) : i = j ∧ v = w := by
  cases v <;> cases w <;> simp_all [under]

theorem under_ne_list {index : Nat} {v : Visit} : v.under index ≠ list [] := by
  cases v <;> simp [under]

theorem under_ne_entry {index last : Nat} {v : Visit} : v.under index ≠ entry [] last := by
  cases v <;> simp [under]

/-- A visit concerns a list itself, one of its symbols, or what is below one of these. -/
@[elab_as_elim]
theorem induction_under {motive : Visit → Prop} (list : motive (list []))
    (entry : ∀ index, motive (entry [] index))
    (under : ∀ index v, motive v → motive (v.under index)) (v : Visit) : motive v := by
  cases v with
  | list path =>
    induction path with
    | nil => exact list
    | cons index path ih => exact under index _ ih
  | entry path last =>
    induction path with
    | nil => exact entry last
    | cons index path ih => exact under index _ ih

variable {v w : Visit} {index : Nat}

theorem not_before_list : ¬ Before v (list []) := by
  generalize target : list [] = x
  intro before
  cases before with
  | list_entry | entry_entry => cases target
  | list_under | entry_under | under_under | inside => exact under_ne_list target.symm

theorem before_entry (before : Before v (entry [] index)) :
    v = list [] ∨ ∃ first, first < index ∧ v = entry [] first := by
  generalize target : entry [] index = x at before
  cases before with
  | list_entry => exact .inl rfl
  | entry_entry less =>
    cases target
    exact .inr ⟨_, less, rfl⟩
  | list_under | entry_under | under_under | inside => exact absurd target.symm under_ne_entry

theorem before_under (before : Before v (w.under index)) :
    v = list [] ∨ (∃ first, v = entry [] first) ∨
      (∃ later u, index < later ∧ v = under later u) ∨ ∃ u, Before u w ∧ v = u.under index := by
  generalize target : w.under index = x at before
  cases before with
  | list_entry | list_under => exact .inl rfl
  | entry_entry | entry_under => exact .inr (.inl ⟨_, rfl⟩)
  | under_under u _ less =>
    obtain ⟨rfl, _⟩ := under_inj target
    exact .inr (.inr (.inl ⟨_, u, less, rfl⟩))
  | inside _ within =>
    obtain ⟨rfl, rfl⟩ := under_inj target
    exact .inr (.inr (.inr ⟨_, within, rfl⟩))

/-- Of two visits one comes before the other. -/
theorem before_trichotomy (v w : Visit) : v = w ∨ Before v w ∨ Before w v := by
  induction v using induction_under generalizing w with
  | list =>
    induction w using induction_under with
    | list => exact .inl rfl
    | entry j => exact .inr (.inl (.list_entry j))
    | under j w => exact .inr (.inl (.list_under j w))
  | entry i =>
    induction w using induction_under with
    | list => exact .inr (.inr (.list_entry i))
    | entry j =>
      rcases Nat.lt_trichotomy i j with less | rfl | more
      · exact .inr (.inl (.entry_entry less))
      · exact .inl rfl
      · exact .inr (.inr (.entry_entry more))
    | under j w => exact .inr (.inl (.entry_under i j w))
  | under i v ih =>
    induction w using induction_under with
    | list => exact .inr (.inr (.list_under i v))
    | entry j => exact .inr (.inr (.entry_under j i v))
    | under j w =>
      rcases Nat.lt_trichotomy i j with less | rfl | more
      · exact .inr (.inr (.under_under w v less))
      · rcases ih w with rfl | first | second
        · exact .inl rfl
        · exact .inr (.inl (.inside i first))
        · exact .inr (.inr (.inside i second))
      · exact .inr (.inl (.under_under v w more))

end Visit

/-! ### What can be wrong -/

/-- What is wrong with a symbol itself, its children aside. Each thing is looked at only if those
before it are right. -/
inductive Malformed (raw : Raw) : SymbolFlaw → Prop
  | empty : raw = .null → Malformed raw .empty
  | nameless : raw ≠ .null → (∀ name, raw.field "name" ≠ .text name) → Malformed raw .nameless
  | noRange {name : String} : raw.field "name" = .text name → rawRange raw = .null →
      Malformed raw (.noRange name)
  | badRange {name : String} {flaw : RangeFlaw} : raw.field "name" = .text name →
      rawRange raw ≠ .null → (rawRange raw).toRange = .error flaw →
      Malformed raw (.badRange name flaw)

theorem malformed_iff {raw : Raw} {flaw : SymbolFlaw} :
    Malformed raw flaw ↔ entry raw = .error flaw := by
  unfold entry
  constructor
  · intro malformed
    cases malformed with
    | empty none => rw [if_pos (isNull_iff.mpr none)]
    | nameless present other =>
      rw [if_neg fun none => present (isNull_iff.mp none)]
      split
      · next name named => exact absurd named (other name)
      · rfl
    | noRange named none =>
      rw [if_neg fun none => ne_null_of_named named (isNull_iff.mp none), named]
      simp only [if_pos (isNull_iff.mpr none)]
    | badRange named present bad =>
      rw [if_neg fun none => ne_null_of_named named (isNull_iff.mp none), named]
      simp only [if_neg fun none => present (isNull_iff.mp none), bad]
  · intro refused
    split at refused
    · next none =>
      obtain rfl := Except.error.inj refused
      exact .empty (isNull_iff.mp none)
    · next present =>
      split at refused
      · next name named =>
        split at refused
        · next none =>
          obtain rfl := Except.error.inj refused
          exact .noRange named (isNull_iff.mp none)
        · next ranged =>
          split at refused
          · cases refused
          · next bad =>
            obtain rfl := Except.error.inj refused
            exact .badRange named (fun none => ranged (isNull_iff.mpr none)) bad
      · next other =>
        obtain rfl := Except.error.inj refused
        exact .nameless (fun none => present (isNull_iff.mpr none)) other

theorem Reaches.unique {raw : Raw} {path : List Nat} {first second : Raw}
    (one : Reaches raw path first) (other : Reaches raw path second) : first = second := by
  induction one with
  | here listed found =>
    cases other with
    | here again found' =>
      rw [listed.unique again, found'] at found
      exact (Option.some.inj found).symm
    | inside _ _ deeper => cases deeper
  | inside listed found reached ih =>
    cases other with
    | here => cases reached
    | inside again found' deeper =>
      rw [listed.unique again, found'] at found
      obtain rfl := Option.some.inj found
      exact ih deeper

/-- What should be a list: the outermost value, or what the symbol at the path has as children. -/
inductive Owns (raw : Raw) : List Nat → Raw → Prop
  | outermost : Owns raw [] raw
  | children {path : List Nat} {item : Raw} : Reaches raw path item →
      Owns raw path (item.field "children")

/-- What goes wrong in a visit. -/
inductive Offends (raw : Raw) (limit : DepthLimit) : Visit → SymbolFlaw → Prop
  | noList {path : List Nat} {value : Raw} : Owns raw path value →
      (∀ items, ¬ Lists value items) → Offends raw limit (.list path) (listFlaw value)
  | tooDeep {path : List Nat} {index : Nat} {item : Raw} : Reaches raw (path ++ [index]) item →
      limit.levels < (path ++ [index]).length →
      Offends raw limit (.entry path index) (.tooDeep limit.shown)
  | malformed {path : List Nat} {index : Nat} {item : Raw} {flaw : SymbolFlaw} :
      Reaches raw (path ++ [index]) item → (path ++ [index]).length ≤ limit.levels →
      Malformed item flaw → Offends raw limit (.entry path index) flaw

/-- A visit finds all as it should be. -/
def Passes (raw : Raw) (limit : DepthLimit) : Visit → Prop
  | .list path => ∀ value, Owns raw path value → ∃ items, Lists value items
  | .entry path index => ∀ item, Reaches raw (path ++ [index]) item →
      (path ++ [index]).length ≤ limit.levels ∧ ∃ node, Shows item node

/-- The visit is the first in which anything goes wrong. -/
structure FirstFlaw (raw : Raw) (limit : DepthLimit) (visit : Visit) (flaw : SymbolFlaw) :
    Prop where
  offends : Offends raw limit visit flaw
  earlier : ∀ v, v.Before visit → Passes raw limit v

section

variable {raw item : Raw} {limit : DepthLimit} {visit : Visit} {flaw : SymbolFlaw}

theorem Reaches.ne_nil {path : List Nat} (reached : Reaches raw path item) : path ≠ [] := by
  cases reached <;> exact List.cons_ne_nil _ _

theorem Owns.unique {path : List Nat} {first second : Raw} (one : Owns raw path first)
    (other : Owns raw path second) : first = second := by
  cases one with
  | outermost =>
    cases other with
    | outermost => rfl
    | children reached => exact absurd rfl reached.ne_nil
  | children reached =>
    cases other with
    | outermost => exact absurd rfl reached.ne_nil
    | children again => rw [reached.unique again]

theorem Malformed.not_shows {node : Node} (malformed : Malformed raw flaw) : ¬ Shows raw node := by
  intro shown
  have read : entry raw = .ok { node with children := [] } :=
    entry_eq_ok_iff.mpr ⟨shown.below [], rfl⟩
  cases (malformed_iff.mp malformed).symm.trans read

theorem Offends.not_passes (offends : Offends raw limit visit flaw) : ¬ Passes raw limit visit := by
  intro passes
  cases offends with
  | noList owned none =>
    obtain ⟨items, listed⟩ := passes _ owned
    exact none items listed
  | tooDeep reached deep => exact Nat.not_le_of_lt deep (passes _ reached).1
  | malformed reached _ malformed =>
    obtain ⟨node, shown⟩ := (passes _ reached).2
    exact malformed.not_shows shown

theorem Offends.unique {other : SymbolFlaw} (one : Offends raw limit visit flaw)
    (two : Offends raw limit visit other) : flaw = other := by
  cases one with
  | noList owned _ =>
    cases two with
    | noList again _ => rw [owned.unique again]
  | tooDeep _ deep =>
    cases two with
    | tooDeep => rfl
    | malformed _ inside _ => exact absurd deep (Nat.not_lt_of_le inside)
  | malformed reached inside malformed =>
    cases two with
    | tooDeep _ deep => exact absurd deep (Nat.not_lt_of_le inside)
    | malformed again _ malformed' =>
      rw [reached.unique again] at malformed
      exact Except.error.inj ((malformed_iff.mp malformed).symm.trans (malformed_iff.mp malformed'))

/-! ### Seen from one level above -/

theorem Reaches.exists_item {items : List Raw} {index : Nat} {path : List Nat} {found : Raw}
    (listed : Lists raw items) (reached : Reaches raw (index :: path) found) :
    ∃ item, items[index]? = some item ∧
      (path = [] ∧ found = item ∨ Reaches (item.field "children") path found) := by
  cases reached with
  | here again held => exact ⟨found, listed.unique again ▸ held, .inl ⟨rfl, rfl⟩⟩
  | @inside _ _ _ item _ _ again held deeper =>
    exact ⟨item, listed.unique again ▸ held, .inr deeper⟩

theorem Owns.exists_item {items : List Raw} {index : Nat} {path : List Nat} {value : Raw}
    (listed : Lists raw items) (owned : Owns raw (index :: path) value) :
    ∃ item, items[index]? = some item ∧ Owns (item.field "children") path value := by
  cases owned with
  | children reached =>
    obtain ⟨item, held, ⟨rfl, same⟩ | deeper⟩ := reached.exists_item listed
    · exact ⟨item, held, same ▸ .outermost⟩
    · exact ⟨item, held, .children deeper⟩

variable {items : List Raw} {index levels : Nat} {shown : String}

theorem passes_under (listed : Lists raw items)
    (below : ∀ item, items[index]? = some item →
      Passes (item.field "children") ⟨levels, shown⟩ visit) :
    Passes raw ⟨levels + 1, shown⟩ (visit.under index) := by
  cases visit with
  | list path =>
    intro value owned
    obtain ⟨item, held, deeper⟩ := owned.exists_item listed
    exact below item held value deeper
  | entry path last =>
    intro found reached
    obtain ⟨item, held, ⟨none, _⟩ | deeper⟩ := Reaches.exists_item listed reached
    · exact absurd none (by simp)
    · obtain ⟨short, shows⟩ := below item held found deeper
      exact ⟨Nat.succ_le_succ short, shows⟩

theorem Offends.under (listed : Lists raw items) (held : items[index]? = some item)
    (offends : Offends (item.field "children") ⟨levels, shown⟩ visit flaw) :
    Offends raw ⟨levels + 1, shown⟩ (visit.under index) flaw := by
  cases offends with
  | noList owned none =>
    refine .noList ?_ none
    cases owned with
    | outermost => exact .children (.here listed held)
    | children reached => exact .children (.inside listed held reached)
  | tooDeep reached deep => exact .tooDeep (.inside listed held reached) (Nat.succ_lt_succ deep)
  | malformed reached inside malformed =>
    exact .malformed (.inside listed held reached) (Nat.succ_le_succ inside) malformed

end

end OpenDocs.Outline
