import OpenDocs.Outline.Reading

/-!
# What a node says of a symbol

A symbol is well formed if it has a name, a range and a list of children, or none; any kind will do.
Its node has that name and that range, and the kind that its code stands for.
-/

namespace OpenDocs.Outline

/-- What counts as a list of symbols; a list that is missing is empty. More numbers than can be
listed count as the first of them, behind which nothing is looked at. -/
inductive Lists : Raw → List Raw → Prop
  | null : Lists .null []
  | list (items : List Raw) : Lists (.list items) items
  | tuple (items : List Raw) : Lists (.tuple items) items
  | stream (items : List Raw) : Lists (.stream items) items
  | endless (first : Int) : Lists (.endless first) [.int first]
  | range (r : Range) : Lists (.range r) [.position r.start, .position r.stop]

theorem items?_eq_some_iff {raw : Raw} {items : List Raw} :
    raw.items? = some items ↔ Lists raw items := by
  constructor
  · intro counted
    cases raw with
    | null | list | tuple | stream | endless | range => cases counted; constructor
    | _ => cases counted
  · rintro (_ | _ | _ | _ | _ | _) <;> rfl

theorem Lists.unique {raw : Raw} {first second : List Raw} (one : Lists raw first)
    (other : Lists raw second) : first = second :=
  Option.some.inj ((items?_eq_some_iff.mpr one).symm.trans (items?_eq_some_iff.mpr other))

/-- The number of a known kind has that kind; all else is of unknown kind. -/
inductive HasKind (raw : Raw) : Kind → Prop
  | known {n : Nat} {kind : Kind} : n < 26 → raw = .int n → kind.code = n → HasKind raw kind
  | unknown : (∀ n : Nat, n < 26 → raw ≠ .int n) → HasKind raw .unknown

theorem Kind.code_ofCode {n : Nat} (small : n < 26) : (Kind.ofCode n).code = n := by
  revert n
  decide

theorem Kind.ofCode_of_le {n : Nat} (large : 26 ≤ n) : Kind.ofCode n = .unknown := by
  have outside : Kind.known[n]? = none := List.getElem?_eq_none_iff.mpr large
  simp only [Kind.ofCode, outside, Option.getD_none]

theorem hasKind_ofRaw (raw : Raw) : HasKind raw (Kind.ofRaw raw) := by
  cases raw with
  | int n =>
    cases n with
    | negSucc n => exact .unknown fun m _ equal => by cases Raw.int.inj equal
    | ofNat n =>
      by_cases small : n < 26
      · exact .known small rfl (Kind.code_ofCode small)
      · have large : Kind.ofRaw (.int n) = .unknown := Kind.ofCode_of_le (Nat.le_of_not_lt small)
        rw [Int.ofNat_eq_natCast, large]
        refine .unknown fun m less equal => ?_
        have same := Int.ofNat.inj (Raw.int.inj equal)
        omega
  | _ => exact .unknown fun m _ equal => by cases equal

theorem HasKind.unique {raw : Raw} {first second : Kind} (one : HasKind raw first)
    (other : HasKind raw second) : first = second := by
  cases one with
  | known small number code =>
    cases other with
    | known _ again code' =>
      have same := Raw.int.inj (number.symm.trans again)
      rw [← Kind.ofCode_code first, ← Kind.ofCode_code second, code, code', same]
    | unknown none => exact absurd number (none _ small)
  | unknown none =>
    cases other with
    | known small number => exact absurd number (none _ small)
    | unknown => rfl

/-- A symbol has its own range or, if that is missing, the range of its location. -/
inductive HasRange (raw : Raw) (range : Range) : Prop
  | own : raw.field "range" ≠ .null → (raw.field "range").toRange = .ok range → HasRange raw range
  | located : raw.field "range" = .null →
      ((raw.field "location").field "range").toRange = .ok range → HasRange raw range

theorem isNull_iff {raw : Raw} : raw.isNull = true ↔ raw = .null := by
  cases raw <;> simp [Raw.isNull]

theorem toRange_rawRange_iff {raw : Raw} {range : Range} :
    (rawRange raw).toRange = .ok range ↔ HasRange raw range := by
  have either : rawRange raw = if (raw.field "range").isNull = true
      then (raw.field "location").field "range" else raw.field "range" := rfl
  rw [either]
  constructor
  · intro read
    split at read
    · next missing => exact .located (isNull_iff.mp missing) read
    · next present => exact .own (fun none => present (isNull_iff.mpr none)) read
  · rintro (⟨present, read⟩ | ⟨missing, read⟩)
    · rwa [if_neg fun none => present (isNull_iff.mp none)]
    · rwa [if_pos (isNull_iff.mpr missing)]

/-- What a node says of a symbol, its children aside. -/
structure Shows (raw : Raw) (node : Node) : Prop where
  name : raw.field "name" = .text node.name
  kind : HasKind (raw.field "kind") node.kind
  range : HasRange raw node.range

theorem Shows.below {raw : Raw} {node : Node} (shown : Shows raw node) (children : List Node) :
    Shows raw { node with children } := ⟨shown.name, shown.kind, shown.range⟩

theorem ne_null_of_named {raw : Raw} {name : String} (named : raw.field "name" = .text name) :
    raw ≠ .null := by
  rintro rfl
  cases named

theorem entry_eq_ok_iff {raw : Raw} {node : Node} :
    entry raw = .ok node ↔ Shows raw node ∧ node.children = [] := by
  unfold entry
  constructor
  · intro read
    split at read
    · cases read
    · split at read
      · next name named =>
        split at read
        · cases read
        · split at read
          · next range found =>
            obtain rfl := Except.ok.inj read
            exact ⟨⟨named, hasKind_ofRaw _, toRange_rawRange_iff.mp found⟩, rfl⟩
          · cases read
      · cases read
  · rintro ⟨⟨named, kind, range⟩, bare⟩
    have found := toRange_rawRange_iff.mpr range
    have present : ¬ (rawRange raw).isNull = true := by
      intro missing
      rw [isNull_iff.mp missing] at found
      cases found
    obtain ⟨name, nodeKind, nodeRange, children⟩ := node
    obtain rfl : children = [] := bare
    obtain rfl := kind.unique (hasKind_ofRaw _)
    rw [if_neg fun none => ne_null_of_named named (isNull_iff.mp none), named]
    simp only [if_neg present, found]

/-- A symbol that has a node, whose children can be gone through. -/
structure WellFormed (raw : Raw) : Prop where
  present : raw ≠ .null
  named : ∃ name, raw.field "name" = .text name
  ranged : ∃ range, HasRange raw range
  listed : ∃ items, Lists (raw.field "children") items

end OpenDocs.Outline
