import OpenDocs.Proofs.Outline.Entry
import OpenDocs.Proofs.Outline.Loop

/-!
# The outline of a list of symbols

A list of symbols has at most one outline: one node for each symbol, in the same places. It is what
is read from the list if it has no more levels than are allowed, and nothing else is read.
-/

namespace OpenDocs.Outline

/-- The nodes are those of the symbols one by one, and each has below it the nodes of what its
symbol lists as children. -/
inductive Mirrors : List Raw → List Node → Prop
  | nil : Mirrors [] []
  | cons {raw : Raw} {node : Node} {below items : List Raw} {nodes : List Node} : Shows raw node →
      Lists (raw.field "children") below → Mirrors below node.children → Mirrors items nodes →
      Mirrors (raw :: items) (node :: nodes)

def Outlines (raw : Raw) (nodes : List Node) : Prop :=
  ∃ items, Lists raw items ∧ Mirrors items nodes

mutual

def Node.height : Node → Nat
  | ⟨_, _, _, children⟩ => height children + 1

/-- The number of levels of an outline. -/
def height : List Node → Nat
  | [] => 0
  | node :: rest => max node.height (height rest)

end

theorem height_cons (node : Node) (rest : List Node) :
    height (node :: rest) = max (height node.children + 1) (height rest) := by
  cases node
  rfl

theorem outlines_null_iff {nodes : List Node} : Outlines .null nodes ↔ nodes = [] := by
  constructor
  · rintro ⟨items, listed, mirrored⟩
    cases listed
    cases mirrored
    rfl
  · rintro rfl
    exact ⟨[], .null, .nil⟩

theorem outlines_of_lists {raw : Raw} {items : List Raw} {nodes : List Node}
    (listed : Lists raw items) : Outlines raw nodes ↔ Mirrors items nodes := by
  constructor
  · rintro ⟨others, again, mirrored⟩
    rwa [listed.unique again]
  · exact fun mirrored => ⟨items, listed, mirrored⟩

theorem mirrors_cons_iff {raw : Raw} {rest : List Raw} {nodes : List Node} :
    Mirrors (raw :: rest) nodes ↔
      ∃ node more, Shows raw node ∧ Outlines (raw.field "children") node.children ∧
        Mirrors rest more ∧ nodes = node :: more := by
  constructor
  · intro mirrored
    cases mirrored with
    | cons shown listed below behind => exact ⟨_, _, shown, ⟨_, listed, below⟩, behind, rfl⟩
  · rintro ⟨node, more, shown, ⟨items, listed, below⟩, behind, rfl⟩
    exact .cons shown listed below behind

theorem attach_cons_eq_ok_iff {below : Pending → Except Problem (List Node)} {path : List Nat}
    {index : Nat} {node : Node} {raw : Raw} {rest : List (Node × Raw)} {nodes : List Node} :
    attach below path index ((node, raw) :: rest) = .ok nodes ↔
      ∃ children more,
        (if raw.isNull then .ok node.children else below ⟨path ++ [index], raw⟩) = .ok children ∧
        attach below path (index + 1) rest = .ok more ∧ nodes = { node with children } :: more := by
  simp only [attach]
  cases attach below path (index + 1) rest with
  | error problem => simp [bind, Except.bind]
  | ok more =>
    by_cases none : raw.isNull = true
    · cases node
      simp [none, bind, Except.bind, pure, Except.pure, eq_comm]
    · cases below ⟨path ++ [index], raw⟩ with
      | error problem => simp [none, bind, Except.bind]
      | ok children => simp [none, bind, Except.bind, pure, Except.pure, eq_comm]

variable {limit : DepthLimit}

/-- A level whose lists below are read as outlines is read as an outline with one level more. -/
theorem attach_eq_ok_iff {below : Pending → Except Problem (List Node)} {path : List Nat}
    {levels : Nat} (room : path.length < limit.levels)
    (reads : ∀ index raw children, below ⟨path ++ [index], raw⟩ = .ok children ↔
      Outlines raw children ∧ height children ≤ levels)
    (index : Nat) (items : List Raw) (nodes : List Node) :
    (∃ level, entries limit path index items = .ok level ∧ attach below path index level = .ok nodes) ↔
      Mirrors items nodes ∧ height nodes ≤ levels + 1 := by
  have children (index : Nat) (raw : Raw) (children : List Node) :
      (if raw.isNull then .ok [] else below ⟨path ++ [index], raw⟩) = .ok children ↔
        Outlines raw children ∧ height children ≤ levels := by
    split
    · next none =>
      rw [isNull_iff.mp none, outlines_null_iff, Except.ok.injEq, eq_comm]
      refine ⟨fun empty => ⟨empty, empty ▸ Nat.zero_le _⟩, And.left⟩
    · exact reads index raw children
  induction items generalizing index nodes with
  | nil =>
    constructor
    · rintro ⟨level, read, attached⟩
      cases read
      cases attached
      exact ⟨.nil, Nat.zero_le _⟩
    · rintro ⟨mirrored, _⟩
      cases mirrored
      exact ⟨[], rfl, rfl⟩
  | cons raw rest ih =>
    constructor
    · rintro ⟨level, read, attached⟩
      obtain ⟨node, more, first, behind, rfl⟩ := entries_cons_eq_ok_iff.mp read
      obtain ⟨shown, bare⟩ := entry_eq_ok_iff.mp (entryAt_eq_ok_iff.mp first).2
      obtain ⟨found, others, inner, later, rfl⟩ := attach_cons_eq_ok_iff.mp attached
      rw [bare] at inner
      obtain ⟨outlined, low⟩ := (children index _ found).mp inner
      obtain ⟨mirrored, lower⟩ := (ih (index + 1) others).mp ⟨more, behind, later⟩
      refine ⟨mirrors_cons_iff.mpr ⟨_, others, shown.below found, outlined, mirrored, rfl⟩, ?_⟩
      rw [height_cons]
      exact Nat.max_le.mpr ⟨Nat.succ_le_succ low, lower⟩
    · rintro ⟨mirrored, low⟩
      obtain ⟨⟨name, kind, range, found⟩, others, shown, outlined, behind, rfl⟩ :=
        mirrors_cons_iff.mp mirrored
      rw [height_cons] at low
      simp only at low outlined
      obtain ⟨level, read, later⟩ := (ih (index + 1) others).mpr ⟨behind, by omega⟩
      have inner := (children index _ found).mpr ⟨outlined, by omega⟩
      have first : entryAt limit (path ++ [index]) raw = .ok ⟨name, kind, range, []⟩ := by
        refine entryAt_eq_ok_iff.mpr ⟨?_, entry_eq_ok_iff.mpr ⟨shown.below [], rfl⟩⟩
        rw [List.length_append, List.length_singleton]
        omega
      exact ⟨_, entries_cons_eq_ok_iff.mpr ⟨_, level, first, read, rfl⟩,
        attach_cons_eq_ok_iff.mpr ⟨found, others, inner, later, rfl⟩⟩

theorem level_eq_ok_iff {p : Pending} {level : List (Node × Raw)} :
    p.level limit = .ok level ↔
      ∃ items, Lists p.raw items ∧ entries limit p.path 0 items = .ok level := by
  unfold Pending.level
  split
  · next none => simp [← items?_eq_some_iff, none]
  · next items counted => simp [← items?_eq_some_iff, counted]

/-- Where nothing more may be read, only an empty list can be. -/
theorem height_eq_zero_iff {nodes : List Node} : height nodes = 0 ↔ nodes = [] := by
  cases nodes with
  | nil => exact iff_of_true rfl rfl
  | cons node rest =>
    rw [height_cons]
    exact iff_of_false (by omega) (List.cons_ne_nil _ _)

theorem readDown_eq_ok_iff {levels : Nat} {p : Pending} {nodes : List Node}
    (exact : p.path.length + levels = limit.levels) :
    readDown limit levels p = .ok nodes ↔ Outlines p.raw nodes ∧ height nodes ≤ levels := by
  induction levels generalizing p nodes with
  | zero =>
    rw [Nat.le_zero, height_eq_zero_iff]
    constructor
    · intro read
      cases found : p.level limit with
      | error problem =>
        rw [readDown, found] at read
        cases read
      | ok level =>
        obtain rfl := level_eq_nil (by omega) found
        rw [readDown, found] at read
        cases read
        obtain ⟨items, listed, read⟩ := level_eq_ok_iff.mp found
        cases items with
        | nil => exact ⟨⟨[], listed, .nil⟩, rfl⟩
        | cons raw rest =>
          obtain ⟨_, _, _, _, none⟩ := entries_cons_eq_ok_iff.mp read
          cases none
    · rintro ⟨⟨items, listed, mirrored⟩, rfl⟩
      cases mirrored
      rw [readDown, level_eq_ok_iff.mpr ⟨[], listed, rfl⟩]
      rfl
  | succ levels ih =>
    have reads (index : Nat) (raw : Raw) (children : List Node) :
        readDown limit levels ⟨p.path ++ [index], raw⟩ = .ok children ↔
          Outlines raw children ∧ height children ≤ levels := by
      apply ih
      rw [List.length_append, List.length_singleton]
      omega
    have room : p.path.length < limit.levels := by omega
    have attached := attach_eq_ok_iff room reads 0
    constructor
    · intro read
      cases found : p.level limit with
      | error problem =>
        rw [readDown, found] at read
        cases read
      | ok level =>
        rw [readDown, found] at read
        obtain ⟨items, listed, entered⟩ := level_eq_ok_iff.mp found
        rw [outlines_of_lists listed]
        exact (attached items nodes).mp ⟨level, entered, read⟩
    · rintro ⟨⟨items, listed, mirrored⟩, low⟩
      obtain ⟨level, entered, read⟩ := (attached items nodes).mpr ⟨mirrored, low⟩
      rw [readDown, level_eq_ok_iff.mpr ⟨items, listed, entered⟩]
      exact read

theorem read_eq_ok_iff {raw : Raw} {nodes : List Node} :
    read raw limit = .ok nodes ↔ Outlines raw nodes ∧ height nodes ≤ limit.levels := by
  rw [read_eq_readDown]
  exact readDown_eq_ok_iff (Nat.zero_add _)

theorem Outlines.unique {raw : Raw} {first second : List Node} (one : Outlines raw first)
    (other : Outlines raw second) : first = second := by
  have room (nodes : List Node) (low : nodes = first ∨ nodes = second)
      (outlined : Outlines raw nodes) :
      read raw ⟨max (height first) (height second), ""⟩ = .ok nodes := by
    refine read_eq_ok_iff.mpr ⟨outlined, ?_⟩
    obtain rfl | rfl := low
    · exact Nat.le_max_left _ _
    · exact Nat.le_max_right _ _
  exact Except.ok.inj ((room first (.inl rfl) one).symm.trans (room second (.inr rfl) other))

end OpenDocs.Outline
