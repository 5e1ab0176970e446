import OpenDocs.Failure
import OpenDocs.Number.Shortest
import OpenDocs.Outline.Node

/-!
# Reading an outline from reported symbols

Each symbol is checked on its own. A list of siblings is gone through from left to right before
any list below it. The lists below wait on a stack, so that the last sibling's is read first, and
the first flaw met in this order is the one reported. What a list holds is put below its node, which
is in the outline already.
-/

namespace OpenDocs.Outline

/-- The deepest level that is read; `shown` is how messages give it. -/
structure DepthLimit where
  levels : Nat
  shown : String

def DepthLimit.ofInt (n : Int) : DepthLimit := ⟨n.toNat, toString n⟩

/-- A limit of any kind of number; one that bounds nothing stands for the most that is asked. -/
def DepthLimit.ofJson? : Json → Option DepthLimit
  | .int n => some (.ofInt n)
  | .bool b => some ⟨if b then 1 else 0, if b then "True" else "False"⟩
  | .float (.infinite true) => some ⟨0, "-inf"⟩
  | .float x =>
    match x.fraction? with
    | some (a, b) => some ⟨(a / b).toNat, x.text⟩
    | none => some ⟨Nat.pow 2 64, x.text⟩
  | _ => none

def DepthLimit.default : DepthLimit := .ofInt 256

/-- A symbol's own range or, if it has none, that of its location. -/
def rawRange (raw : Raw) : Raw :=
  let range := raw.field "range"
  if range.isNull then (raw.field "location").field "range" else range

/-- A node without its children. -/
def entry (raw : Raw) : Except SymbolFlaw Node :=
  if raw.isNull then .error .empty
  else match raw.field "name" with
    | .text name =>
      if (rawRange raw).isNull then .error (.noRange name)
      else match (rawRange raw).toRange with
        | .ok range => .ok ⟨name, .ofRaw (raw.field "kind"), range, []⟩
        | .error flaw => .error (.badRange name flaw)
    | _ => .error .nameless

theorem entry_named {raw : Raw} {node : Node} (read : entry raw = .ok node) :
    ∃ name, raw.field "name" = .text name := by
  unfold entry at read
  split at read
  · cases read
  · split at read
    · next name named => exact ⟨name, named⟩
    · cases read

/-- The symbol at a path; that it is not too deep is checked before anything else. -/
def entryAt (limit : DepthLimit) (path : List Nat) (raw : Raw) : Except Problem Node :=
  if limit.levels < path.length then .error (.symbol (.tooDeep limit.shown) path)
  else (entry raw).mapError (.symbol · path)

/-- The symbols of the list at a path from number `index` on, each with what it has as children. -/
def entries (limit : DepthLimit) (path : List Nat) :
    Nat → List Raw → Except Problem (List (Node × Raw))
  | _, [] => .ok []
  | index, raw :: rest => do
    let node ← entryAt limit (path ++ [index]) raw
    let more ← entries limit path (index + 1) rest
    pure ((node, raw.field "children") :: more)

theorem entryAt_eq_ok_iff {limit : DepthLimit} {path : List Nat} {raw : Raw} {node : Node} :
    entryAt limit path raw = .ok node ↔ path.length ≤ limit.levels ∧ entry raw = .ok node := by
  unfold entryAt
  split
  · next deep => simp [Nat.not_le_of_lt deep]
  · next inside =>
    cases entry raw with
    | error problem => exact ⟨nofun, fun both => nomatch both.2⟩
    | ok found =>
      exact ⟨fun same => ⟨Nat.le_of_not_lt inside, congrArg _ (Except.ok.inj same)⟩,
        fun both => congrArg _ (Except.ok.inj both.2)⟩

theorem entries_cons_eq_ok_iff {limit : DepthLimit} {path : List Nat} {index : Nat} {raw : Raw}
    {rest : List Raw} {level : List (Node × Raw)} :
    entries limit path index (raw :: rest) = .ok level ↔
      ∃ node more, entryAt limit (path ++ [index]) raw = .ok node ∧
        entries limit path (index + 1) rest = .ok more ∧
        level = (node, raw.field "children") :: more := by
  simp only [entries]
  cases entryAt limit (path ++ [index]) raw with
  | error problem => simp [bind, Except.bind]
  | ok node =>
    cases entries limit path (index + 1) rest with
    | error problem => simp [bind, Except.bind]
    | ok more => simp [bind, Except.bind, pure, Except.pure, eq_comm]

/-- The lists below a level are parts of it. -/
theorem entries_smaller {limit : DepthLimit} {path : List Nat} {index : Nat} {items : List Raw}
    {level : List (Node × Raw)} (read : entries limit path index items = .ok level) :
    total (fun x => sizeOf x.2) level < sizeOf items := by
  induction items generalizing index level with
  | nil =>
    cases read
    simp [total]
  | cons raw rest ih =>
    obtain ⟨node, more, first, behind, rfl⟩ := entries_cons_eq_ok_iff.mp read
    obtain ⟨name, named⟩ := entry_named (entryAt_eq_ok_iff.mp first).2
    have inside := Raw.sizeOf_field_lt named "children"
    have less := ih behind
    simp only [total, List.cons.sizeOf_spec]
    omega

/-- A list of symbols that is still to be read, below the node at a path. -/
structure Pending where
  path : List Nat
  raw : Raw

/-- Why a value cannot be gone through as a list of symbols. -/
def listFlaw : Raw → SymbolFlaw
  | .brokenList | .brokenStream => .unlisted
  | v => .notSequence v.kindName

def Pending.level (limit : DepthLimit) (p : Pending) : Except Problem (List (Node × Raw)) :=
  match p.raw.items? with
  | none => .error (.symbol (listFlaw p.raw) p.path)
  | some items => entries limit p.path 0 items

theorem Pending.level_smaller {limit : DepthLimit} {p : Pending} {level : List (Node × Raw)}
    (read : p.level limit = .ok level) : total (fun x => sizeOf x.2) level < sizeOf p.raw := by
  obtain ⟨path, raw⟩ := p
  cases raw with
  | null =>
    cases read
    simp [total]
  | list items | tuple items | stream items =>
    have smaller := entries_smaller read
    simp only [Raw.list.sizeOf_spec, Raw.tuple.sizeOf_spec, Raw.stream.sizeOf_spec]
    omega
  | range _ | endless _ =>
    -- Positions and numbers are gone through, but have no name.
    obtain ⟨node, more, first, _⟩ := entries_cons_eq_ok_iff.mp read
    obtain ⟨name, named⟩ := entry_named (entryAt_eq_ok_iff.mp first).2
    simp [Raw.field, Raw.member] at named
  | _ => cases read

/-- The stack with the lists below the nodes of a level on it, the last node's on top. -/
def pushBelow (path : List Nat) : Nat → List (Node × Raw) → List Pending → List Pending
  | _, [], stack => stack
  | index, (_, raw) :: rest, stack =>
    pushBelow path (index + 1) rest
      (if raw.isNull then stack else ⟨path ++ [index], raw⟩ :: stack)

theorem total_pushBelow_le (path : List Nat) (index : Nat) (level : List (Node × Raw))
    (stack : List Pending) :
    total (fun p => sizeOf p.raw) (pushBelow path index level stack) ≤
      total (fun x => sizeOf x.2) level + total (fun p => sizeOf p.raw) stack := by
  induction level generalizing index stack with
  | nil => simp [pushBelow, total]
  | cons x rest ih =>
    simp only [pushBelow, total]
    refine Nat.le_trans (ih (index + 1) _) ?_
    split
    · omega
    · simp only [total]
      omega

/-- The outline with these nodes below the node at the path. -/
def graft (level : List Node) : List Nat → List Node → List Node
  | [], _ => level
  | index :: path, nodes =>
    nodes.modify index fun node => { node with children := graft level path node.children }

def readPending (limit : DepthLimit) : List Pending → List Node → Except Problem (List Node)
  | [], outline => .ok outline
  | p :: stack, outline =>
    match _read : p.level limit with
    | .error problem => .error problem
    | .ok level =>
      readPending limit (pushBelow p.path 0 level stack) (graft (level.map (·.1)) p.path outline)
termination_by stack => total (fun p => sizeOf p.raw) stack
decreasing_by
  have pushed := total_pushBelow_le p.path 0 level stack
  have smaller := Pending.level_smaller _read
  simp only [total]
  omega

def read (raw : Raw) (limit : DepthLimit) : Except Problem (List Node) :=
  readPending limit [⟨[], raw⟩] []

/-- Reads symbols to a limit. One that is no number fails at the first symbol. -/
def flatten (raw : Raw) (limit? : Option DepthLimit) : Except Failure (List Node) :=
  match limit? with
  | some limit => (read raw limit).mapError Problem.raised
  | none =>
    match read raw ⟨0, ""⟩ with
    | .error (.symbol (.tooDeep _) _) => .error (.mishap .noDepthLimit)
    | result => result.mapError Problem.raised

end OpenDocs.Outline
