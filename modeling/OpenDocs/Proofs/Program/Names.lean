import OpenDocs.Program.Outline
import OpenDocs.Program.Source
import OpenDocs.Proofs.Outline.Symbols
import OpenDocs.Proofs.Program.Matches
import OpenDocs.Proofs.Program.Tokens
import OpenDocs.Proofs.Text.Identifiers

/-!
# Where the names of a program come from

The grammar marks identifiers at names only, and begins classes and functions with the identifiers
that name them. So what a program defines or assigns has a name of one line.
-/

namespace OpenDocs.Program

def IsName (tokens : Array Token) (i : Nat) : Prop := ∃ t, tokens[i]? = some t ∧ t.kind = .name

/-- What a node with this tag begins with. -/
def Tag.Heads (tokens : Array Token) (first : Nat) (children : List Tree) : Tag → Prop
  | .identifier => IsName tokens first
  | .classDef | .functionDef => ∃ start stop inner rest,
    children = .node .identifier start stop inner :: rest ∧ IsName tokens start
  | _ => True

mutual

def Tree.Named (tokens : Array Token) : Tree → Prop
  | .node tag first _ children => tag.Heads tokens first children ∧ Trees.Named tokens children

/-- All nodes begin as their tags say. -/
def Trees.Named (tokens : Array Token) : List Tree → Prop
  | [] => True
  | tree :: trees => tree.Named tokens ∧ Trees.Named tokens trees

end

variable {tokens : Array Token}

theorem Trees.named_append {first second : List Tree} (named : Trees.Named tokens first)
    (named' : Trees.Named tokens second) : Trees.Named tokens (first ++ second) := by
  induction first with
  | nil => exact named'
  | cons tree trees ih => exact ⟨named.1, ih named.2⟩

namespace Rule

/-- Whether there are words only before a name. -/
def startsNamed : List P → Bool
  | .rule .name :: _ => true
  | .word _ :: ps => startsNamed ps
  | .alt [.word _, .seq []] :: ps => startsNamed ps
  | _ => false

/-- Whether what is marked begins as the tag says. -/
def marksHead : Tag → P → Bool
  | .identifier, .kind .name => true
  | .identifier, _ => false
  | .classDef, .seq ps | .functionDef, .seq ps => startsNamed ps
  | .classDef, _ | .functionDef, _ => false
  | _, _ => true

mutual

def marksHeads : P → Bool
  | .node tag p => marksHead tag p && marksHeads p
  | .fold tag p => (tag == .primary || tag == .other) && marksHeads p
  | .seq ps | .alt ps => allMarkHeads ps
  | .many p | .ahead p | .notAhead p | .silent p => marksHeads p
  | .word _ | .soft _ | .kind _ | .imaginary _ | .rule _ => true

/-- Whether all that is marked in the patterns begins as the tags say. -/
def allMarkHeads : List P → Bool
  | [] => true
  | p :: ps => marksHeads p && allMarkHeads ps

end

theorem marksHeads_pattern? (r : Rule) : marksHeads (pattern? r) = true := by
  cases r <;> rfl

theorem marksHeads_of_mem {p : P} {ps : List P} (met : p ∈ ps) (all : allMarkHeads ps = true) :
    marksHeads p = true := by
  induction ps with
  | nil => cases met
  | cons q qs ih =>
    obtain ⟨first, rest⟩ := Bool.and_eq_true_iff.mp all
    obtain rfl | met := List.mem_cons.mp met
    · exact first
    · exact ih met rest

variable {p : P} {i j : Nat} {trees : List Tree}

theorem isName_of_matches (matched : Matches pattern? tokens (.kind .name) i j trees) :
    IsName tokens i := by
  cases matched with
  | kind here same => exact ⟨_, here, same⟩

theorem eq_nil_of_matches_opt {text : String}
    (matched : Matches pattern? tokens (.alt [.word text, .seq []]) i j trees) : trees = [] := by
  cases matched with
  | alt met matched =>
    obtain rfl | met := List.mem_cons.mp met
    · cases matched
      rfl
    · obtain rfl := List.mem_singleton.mp met
      cases matched
      rfl

theorem heads_of_startsNamed {ps : List P} (starts : startsNamed ps = true)
    (matched : Matches pattern? tokens (.seq ps) i j trees) : ∃ start stop inner rest,
      trees = .node .identifier start stop inner :: rest ∧ IsName tokens start := by
  fun_induction startsNamed ps generalizing i trees with
  | case1 ps =>
    cases matched with
    | seq first rest =>
      cases first with
      | rule first =>
        cases first with
        | node first => exact ⟨_, _, _, _, rfl, isName_of_matches first⟩
  | case2 text ps ih =>
    cases matched with
    | seq first rest =>
      cases first with
      | word => exact ih starts rest
  | case3 text ps ih =>
    cases matched with
    | seq first rest =>
      obtain rfl := eq_nil_of_matches_opt first
      exact ih starts rest
  | case4 => cases starts

theorem heads_of_marksHead {tag : Tag} (marks : marksHead tag p = true)
    (matched : Matches pattern? tokens p i j trees) : tag.Heads tokens i trees := by
  unfold marksHead at marks
  split at marks
  · exact isName_of_matches matched
  · cases marks
  · exact heads_of_startsNamed marks matched
  · exact heads_of_startsNamed marks matched
  · cases marks
  · cases marks
  · cases tag <;> trivial

/-- What a pattern matches is made of nodes that begin as their tags say. -/
theorem named_of_matches (matched : Matches pattern? tokens p i j trees)
    (marks : marksHeads p = true) : Trees.Named tokens trees := by
  induction matched with
  | word | soft | kind | imaginary | empty | none | ahead | notAhead | silent => trivial
  | rule _ ih => exact ih (marksHeads_pattern? _)
  | seq _ _ ih ih' =>
    obtain ⟨first, rest⟩ := Bool.and_eq_true_iff.mp marks
    exact Trees.named_append (ih first) (ih' rest)
  | alt met _ ih => exact ih (marksHeads_of_mem met marks)
  | many _ _ ih ih' => exact Trees.named_append (ih marks) (ih' marks)
  | node matched ih =>
    obtain ⟨head, inner⟩ := Bool.and_eq_true_iff.mp marks
    exact ⟨⟨heads_of_marksHead head matched, ih inner⟩, trivial⟩
  | single _ ih => exact ih (Bool.and_eq_true_iff.mp marks).2
  | fold _ ih =>
    obtain ⟨plain, inner⟩ := Bool.and_eq_true_iff.mp marks
    refine ⟨⟨?_, ih inner⟩, trivial⟩
    obtain same | same := Bool.or_eq_true_iff.mp plain
    · rw [eq_of_beq same]
      trivial
    · rw [eq_of_beq same]
      trivial

end Rule

open Text (OneLine)

theorem oneLine_nameAt {i : Nat} (spelled : ∀ t ∈ tokens, t.Spelled) (named : IsName tokens i) :
    OneLine (nameAt tokens i) := by
  obtain ⟨t, here, kind⟩ := named
  rw [nameAt, here]
  refine Text.oneLine_identifierForm fun c met => le_of_isNamePart ?_
  exact spelled t (Array.mem_of_getElem? here) kind c met

theorem oneLine_of_mem_targetNames (spelled : ∀ t ∈ tokens, t.Spelled) :
    (∀ tree : Tree, tree.Named tokens → ∀ name ∈ targetNames (exprOf tokens tree), OneLine name) ∧
    (∀ trees, Trees.Named tokens trees →
      ∀ name ∈ targetNamesAll (exprsOf tokens trees), OneLine name) ∧
    ∀ value trees, Trees.Named tokens trees → (∀ name ∈ targetNames value, OneLine name) →
      ∀ name ∈ targetNames (primaryOf tokens value trees), OneLine name := by
  apply exprOf.mutual_induct tokens
  -- An identifier by itself.
  case case1 =>
    intro first last children named
    rw [exprOf, targetNames, List.forall_mem_singleton]
    exact oneLine_nameAt spelled named.1
  case case2 =>
    intro first last children ih named
    rw [exprOf]
    exact ih named.2 (by simp [targetNames])
  -- Tuples and lists.
  case case3 | case4 =>
    intro first last children ih named
    rw [exprOf, targetNames]
    exact ih named.2
  case case5 | case6 => simp_all [exprOf, targetNames]
  case case7 => simp [exprsOf, targetNamesAll]
  case case8 =>
    intro tree trees ih ih' named
    rw [exprsOf, targetNamesAll]
    exact List.forall_mem_append.mpr ⟨ih named.1, ih' named.2⟩
  case case9 =>
    intro value _ held
    rwa [primaryOf]
  -- A suffix makes of the value what is no name.
  case case10 | case11 | case12 =>
    intro value first last children rest ih named _
    rw [primaryOf]
    exact ih named.2 (by simp [targetNames])
  case case13 =>
    intro value tree rest _ _ _ ih ih' named _
    rw [primaryOf]
    · exact ih' named.2 (ih named.1)
    all_goals assumption

section
variable {lines : List (List Char)} {extent : Extent} {scope : Scope}

theorem oneLine_of_mem_symbolAt {name : String} {kind : Outline.Kind}
    {children : List Outline.Symbol} (own : OneLine name)
    (below : ∀ s ∈ Outline.Symbol.preorders children, OneLine s.name) :
    ∀ s ∈ Outline.Symbol.preorders [symbolAt lines extent name kind children], OneLine s.name :=
  List.forall_mem_append.mpr
    ⟨List.forall_mem_cons.mpr ⟨own, below⟩, by simp⟩

theorem oneLine_of_mem_assigned {names : List String} (all : ∀ name ∈ names, OneLine name) :
    ∀ s ∈ Outline.Symbol.preorders (assigned lines scope extent names), OneLine s.name := by
  unfold assigned
  split
  · simp
  · induction names with
    | nil => simp
    | cons name rest ih =>
      obtain ⟨own, others⟩ := List.forall_mem_cons.mp all
      rw [List.map_cons, ← List.singleton_append, Outline.Symbol.preorders_append]
      refine List.forall_mem_append.mpr ⟨oneLine_of_mem_symbolAt own ?_, ih others⟩
      simp

end

theorem oneLine_of_mem_statements (spelled : ∀ t ∈ tokens, t.Spelled) (lines : List (List Char)) :
    (∀ decorators tree, tree.Named tokens → ∀ scope, ∀ s ∈ Outline.Symbol.preorders
      (statementSymbols lines scope (statementOf tokens decorators tree)), OneLine s.name) ∧
    ∀ trees, Trees.Named tokens trees → ∀ scope, ∀ s ∈ Outline.Symbol.preorders
      (bodySymbols lines scope (statementsOf tokens trees)), OneLine s.name := by
  apply statementOf.mutual_induct tokens
  -- Classes and functions: the child that names them is the identifier they begin with.
  case case1 | case2 =>
    intro decorators first last tag name stop children body ih named scope
    obtain ⟨⟨_, _, _, _, same, isName⟩, _, inner⟩ := named
    obtain ⟨here, _⟩ := List.cons.inj same
    cases here
    rw [statementOf, statementSymbols]
    exact oneLine_of_mem_symbolAt (oneLine_nameAt spelled isName) (ih inner _)
  case case3 =>
    intro decorators first last tag start stop found definition ih named scope
    rw [statementOf]
    exact ih named.2.2.1 scope
  case case4 =>
    intro decorators first last targets named scope
    rw [statementOf, statementSymbols]
    exact oneLine_of_mem_assigned ((oneLine_of_mem_targetNames spelled).2.1 targets named.2)
  case case5 =>
    intro decorators first last target named scope
    rw [statementOf, statementSymbols]
    exact oneLine_of_mem_assigned ((oneLine_of_mem_targetNames spelled).1 target named.2.1)
  case case6 =>
    intro tree decorators _ _ _ _ _ _ scope
    rw [statementOf, statementSymbols]
    · simp
    all_goals assumption
  case case7 => simp [statementsOf, bodySymbols]
  case case8 =>
    intro tree trees ih ih' named scope
    rw [statementsOf, bodySymbols, Outline.Symbol.preorders_append]
    exact List.forall_mem_append.mpr ⟨ih named.1 scope, ih' named.2 scope⟩

/-- What a program defines or assigns has a name of one line. -/
theorem oneLine_of_mem_moduleSymbols {t : List Char} {body : List Statement}
    (parsed : parse t = some body) (lines : List (List Char)) :
    ∀ s ∈ Outline.Symbol.preorders (moduleSymbols lines body), OneLine s.name := by
  obtain ⟨tokens, found, parsed⟩ := Option.bind_eq_some_iff.mp parsed
  obtain ⟨trees, matched, parsed⟩ := Option.bind_eq_some_iff.mp parsed
  split at parsed
  · obtain rfl := Option.some.inj parsed
    obtain ⟨stop, matched⟩ := matches_of_parse? matched
    have named := Rule.named_of_matches matched rfl
    exact (oneLine_of_mem_statements (spelled_of_mem_tokens found) lines).2 trees named .module
  · cases parsed

end OpenDocs.Program
