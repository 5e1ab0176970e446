import OpenDocs.Outline.Reading

/-!
# Reading an outline by recursion

The stack of pending lists does what recursion over the reported tree would do: the list on top is
read, with all that is below it, before the next one is looked at. Reading so gives the same outline
and reports the same problem.
-/

namespace OpenDocs.Outline

/-- Gives each node of a level its children, read by `below` from the last node to the first. -/
def attach (below : Pending → Except Problem (List Node)) (path : List Nat) :
    Nat → List (Node × Raw) → Except Problem (List Node)
  | _, [] => .ok []
  | index, (node, raw) :: rest => do
    let more ← attach below path (index + 1) rest
    if raw.isNull then pure (node :: more)
    else
      let children ← below ⟨path ++ [index], raw⟩
      pure ({ node with children } :: more)

/-- Reads a list and, by recursion, the lists below it, with so many levels left to read. -/
def readDown (limit : DepthLimit) : Nat → Pending → Except Problem (List Node)
  | 0, p => do
    let level ← p.level limit
    pure (level.map (·.1))
  | levels + 1, p => do
    let level ← p.level limit
    attach (readDown limit levels) p.path 0 level

theorem graft_children (children before rest : List Node) (node : Node) (path : List Nat)
    (outline : List Node) :
    graft children (path ++ [before.length]) (graft (before ++ node :: rest) path outline) =
      graft (before ++ { node with children } :: rest) path outline := by
  induction path generalizing outline with
  | nil =>
    simp only [List.nil_append, graft]
    rw [List.modify_eq_take_cons_drop (by simp)]
    simp
  | cons index path ih =>
    simp only [List.cons_append, graft, List.modify_modify_eq]
    congr 1
    funext outer
    simp only [Function.comp_apply, ih]

variable {limit : DepthLimit}

theorem readPending_of_error {p : Pending} {problem : Problem}
    (read : p.level limit = .error problem)
    (stack : List Pending) (outline : List Node) :
    readPending limit (p :: stack) outline = .error problem := by
  rw [readPending]
  split
  · next met =>
    cases met.symm.trans read
    rfl
  · next met => cases met.symm.trans read

theorem readPending_of_ok {p : Pending} {level : List (Node × Raw)}
    (read : p.level limit = .ok level)
    (stack : List Pending) (outline : List Node) :
    readPending limit (p :: stack) outline =
      readPending limit (pushBelow p.path 0 level stack) (graft (level.map (·.1)) p.path outline) := by
  rw [readPending]
  split
  · next met => cases met.symm.trans read
  · next met =>
    cases met.symm.trans read
    rfl

/-- If each list on the stack is read as `below` reads it, so are the lists below a level. The nodes
`before` have their children waiting on the stack below these. -/
theorem readPending_pushBelow {below : Pending → Except Problem (List Node)} {path : List Nat}
    (reads : ∀ index raw stack outline, readPending limit (⟨path ++ [index], raw⟩ :: stack) outline =
      below ⟨path ++ [index], raw⟩ >>= fun nodes =>
        readPending limit stack (graft nodes (path ++ [index]) outline))
    (before : List Node) (level : List (Node × Raw)) (stack : List Pending) (outline : List Node) :
    readPending limit (pushBelow path before.length level stack)
        (graft (before ++ level.map (·.1)) path outline) =
      attach below path before.length level >>= fun nodes =>
        readPending limit stack (graft (before ++ nodes) path outline) := by
  induction level generalizing before stack with
  | nil => rfl
  | cons x rest ih =>
    obtain ⟨node, raw⟩ := x
    have later := ih (before ++ [node])
      (if raw.isNull then stack else ⟨path ++ [before.length], raw⟩ :: stack)
    simp only [List.length_append, List.length_singleton, List.append_assoc,
      List.singleton_append] at later
    simp only [pushBelow, List.map_cons, later, attach]
    cases attach below path (before.length + 1) rest with
    | error problem => rfl
    | ok more =>
      simp only [bind, Except.bind]
      split
      · rfl
      · rw [reads]
        cases below ⟨path ++ [before.length], raw⟩ with
        | error problem => rfl
        | ok children =>
          simp only [bind, Except.bind, pure, Except.pure, graft_children]

theorem level_eq_nil {p : Pending} {level : List (Node × Raw)} (full : limit.levels ≤ p.path.length)
    (read : p.level limit = .ok level) : level = [] := by
  unfold Pending.level at read
  split at read
  · cases read
  · next items _ =>
    cases items with
    | nil => exact (Except.ok.inj read).symm
    | cons raw rest =>
      obtain ⟨node, more, first, _⟩ := entries_cons_eq_ok_iff.mp read
      have inside := (entryAt_eq_ok_iff.mp first).1
      rw [List.length_append, List.length_singleton] at inside
      omega

/-- The list on top of the stack is read down to its last level before the others. -/
theorem readPending_cons {levels : Nat} {p : Pending}
    (enough : limit.levels ≤ p.path.length + levels)
    (stack : List Pending) (outline : List Node) :
    readPending limit (p :: stack) outline =
      readDown limit levels p >>= fun nodes => readPending limit stack (graft nodes p.path outline) := by
  induction levels generalizing p stack outline with
  | zero =>
    cases read : p.level limit with
    | error problem =>
      rw [readPending_of_error read, readDown, read]
      rfl
    | ok level =>
      obtain rfl := level_eq_nil enough read
      rw [readPending_of_ok read, readDown, read]
      rfl
  | succ levels ih =>
    cases read : p.level limit with
    | error problem =>
      rw [readPending_of_error read, readDown, read]
      rfl
    | ok level =>
      rw [readPending_of_ok read, readDown, read]
      refine readPending_pushBelow (fun index raw stack outline => ?_) [] level stack outline
      apply ih
      rw [List.length_append, List.length_singleton]
      omega

theorem read_eq_readDown (raw : Raw) (limit : DepthLimit) :
    read raw limit = readDown limit limit.levels ⟨[], raw⟩ := by
  rw [read, readPending_cons (Nat.le_add_left _ _)]
  cases readDown limit limit.levels ⟨[], raw⟩ with
  | error problem => rfl
  | ok nodes => simp only [bind, Except.bind, readPending, graft]

end OpenDocs.Outline
