import Std.Data.HashMap
import OpenDocs.Program.Number
import OpenDocs.Program.Token

/-!
# Patterns of tokens

A grammar gives each of its rules a pattern. Alternatives are tried in order and the first that
matches is taken; repetition takes as much as it can. What a rule matches at a place is kept, so
that it is found once only. A match yields the trees of the nodes that the pattern marks.
-/

namespace OpenDocs.Program

/-- What a node of a parse tree stands for. -/
inductive Tag where
  | identifier | primary | attribute | subscript | call | tuple | list | starred | other
  | classDef | functionDef | decorated | decorators | assignment | annotated | statement | body
  deriving DecidableEq

/-- A node spans the tokens from `first` up to `last`. -/
inductive Tree where
  | node (tag : Tag) (first last : Nat) (children : List Tree)

inductive Pattern (Rule : Type) where
  | word (text : String)
  /-- An identifier that is a keyword in some places only. -/
  | soft (text : String)
  | kind (k : TokenKind)
  | imaginary (wanted : Bool)
  | rule (r : Rule)
  | seq (ps : List (Pattern Rule))
  | alt (ps : List (Pattern Rule))
  | many (p : Pattern Rule)
  | ahead (p : Pattern Rule)
  | notAhead (p : Pattern Rule)
  /-- Marks what is matched as a node. -/
  | node (tag : Tag) (p : Pattern Rule)
  /-- Marks what is matched as a node, unless it holds one tree only. -/
  | fold (tag : Tag) (p : Pattern Rule)
  /-- Drops the trees. -/
  | silent (p : Pattern Rule)

namespace Pattern

variable {Rule : Type}

def opt (p : Pattern Rule) : Pattern Rule := .alt [p, .seq []]

def many1 (p : Pattern Rule) : Pattern Rule := .seq [p, .many p]

/-- One or more, with a separator between. -/
def sep (separator p : Pattern Rule) : Pattern Rule := .seq [p, .many (.seq [separator, p])]

instance : Coe String (Pattern Rule) := ⟨.word⟩

end Pattern

structure Match where
  stop : Nat
  trees : List Tree

abbrev Found (Rule : Type) [BEq Rule] [Hashable Rule] :=
  Std.HashMap (Rule × Nat) (Option Match)

section
variable {Rule : Type} [BEq Rule] [Hashable Rule]
variable (grammar : Rule → Pattern Rule) (tokens : Array Token)

def takeToken (position : Nat) (ok : Token → Bool) : Option Match :=
  match tokens[position]? with
  | some t => if ok t then some ⟨position + 1, []⟩ else none
  | none => none

/-- What the pattern matches from a position on; `fuel` bounds the depth of the search. -/
def matchAt : Nat → Pattern Rule → Nat → StateM (Found Rule) (Option Match)
  | 0, _, _ => pure none
  | fuel + 1, p, i =>
    match p with
    | .word text => pure (takeToken tokens i fun t => t.kind == .word && t.text == text)
    | .soft text => pure (takeToken tokens i fun t => t.kind == .name && t.text == text)
    | .kind k => pure (takeToken tokens i (·.kind == k))
    | .imaginary wanted =>
      pure (takeToken tokens i fun t => t.kind == .number && isImaginary t.text == wanted)
    | .rule r => do
      match (← get)[(r, i)]? with
      | some found => pure found
      | none =>
        let found ← matchAt fuel (grammar r) i
        modify (·.insert (r, i) found)
        pure found
    | .seq [] => pure (some ⟨i, []⟩)
    | .seq (p :: ps) => do
      match ← matchAt fuel p i with
      | none => pure none
      | some m =>
        match ← matchAt fuel (.seq ps) m.stop with
        | none => pure none
        | some m' => pure (some ⟨m'.stop, m.trees ++ m'.trees⟩)
    | .alt [] => pure none
    | .alt (p :: ps) => do
      match ← matchAt fuel p i with
      | some m => pure (some m)
      | none => matchAt fuel (.alt ps) i
    | .many p => do
      match ← matchAt fuel p i with
      | none => pure (some ⟨i, []⟩)
      | some m =>
        if m.stop ≤ i then pure (some m)
        else
          match ← matchAt fuel (.many p) m.stop with
          | none => pure (some m)
          | some m' => pure (some ⟨m'.stop, m.trees ++ m'.trees⟩)
    | .ahead p => do
      pure ((← matchAt fuel p i).map fun _ => ⟨i, []⟩)
    | .notAhead p => do
      match ← matchAt fuel p i with
      | some _ => pure none
      | none => pure (some ⟨i, []⟩)
    | .node tag p => do
      pure ((← matchAt fuel p i).map fun m => ⟨m.stop, [.node tag i m.stop m.trees]⟩)
    | .fold tag p => do
      pure ((← matchAt fuel p i).map fun m =>
        match m.trees with
        | [tree] => ⟨m.stop, [tree]⟩
        | trees => ⟨m.stop, [.node tag i m.stop trees]⟩)
    | .silent p => do
      pure ((← matchAt fuel p i).map fun m => ⟨m.stop, []⟩)

/-- The trees of what a rule matches at the first token. A search goes no deeper than a bounded
number of patterns for each token. -/
def parse? (r : Rule) : Option (List Tree) :=
  ((matchAt grammar tokens ((tokens.size + 1) * 1000) (.rule r) 0).run ∅).1.map (·.trees)

end

end OpenDocs.Program
