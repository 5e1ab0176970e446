import OpenDocs.Program.Outline
import OpenDocs.Proofs.Outline.Symbols
import OpenDocs.Proofs.Text.Spans

/-!
# The ranges of statements

A statement is placed by lines and bytes, its symbol by lines and code points. Where a place is
between two code points of its line both are the same offset of the text, and the order of places is
kept. So symbols lie in the text as their statements do, whatever the lines hold and however they are
broken.
-/

namespace OpenDocs.Program

open Outline (Symbol DepthLimit read)
open Text (lines lineTexts offsetOf Spans)

namespace Place

instance : LE Place := ⟨fun p q => p.line < q.line ∨ p.line = q.line ∧ p.byte ≤ q.byte⟩

theorem le_iff {p q : Place} :
    p ≤ q ↔ p.line < q.line ∨ p.line = q.line ∧ p.byte ≤ q.byte := Iff.rfl

instance (p q : Place) : Decidable (p ≤ q) := decidable_of_iff _ le_iff.symm

end Place

/-! ### Columns in bytes -/

theorem columnOf_append (before after : List Char) :
    columnOf (before ++ after) (String.ofList before).utf8ByteSize = before.length := by
  induction before with
  | nil =>
    cases after with
    | nil => rfl
    | cons c cs => exact if_neg (Nat.not_le_of_lt c.utf8Size_pos)
  | cons c cs ih =>
    rw [String.ofList_cons, String.utf8ByteSize_append, String.utf8ByteSize_singleton,
      List.cons_append, columnOf, if_pos (Nat.le_add_right _ _), Nat.add_sub_cancel_left, ih,
      List.length_cons]

theorem columnOf_mono (cs : List Char) {byte byte' : Nat} (less : byte ≤ byte') :
    columnOf cs byte ≤ columnOf cs byte' := by
  induction cs generalizing byte byte' with
  | nil => exact Nat.le_refl 0
  | cons c cs ih =>
    by_cases reached : c.utf8Size ≤ byte
    · rw [columnOf, columnOf, if_pos reached, if_pos (Nat.le_trans reached less)]
      exact Nat.succ_le_succ (ih (Nat.sub_le_sub_right less _))
    · rw [columnOf, if_neg reached]
      exact Nat.zero_le _

theorem positionOf_mono (texts : List (List Char)) {p q : Place} (order : p ≤ q) :
    positionOf texts p ≤ positionOf texts q := by
  rw [Position.le_iff]
  rcases order with less | ⟨same, less⟩
  · exact .inl less
  · refine .inr ⟨same, ?_⟩
    rw [positionOf, positionOf, same]
    exact columnOf_mono _ less

/-- The place is where the line has come to the offset: so many bytes of the line come before it as
UTF-8, and no code point is cut. -/
inductive Marks (t : List Char) (p : Place) : Nat → Prop
  | intro {l : Text.Line} {before after : List Char} : (lines t)[p.line]? = some l →
      l.chars t = before ++ after → (String.ofList before).utf8ByteSize = p.byte →
      Marks t p (l.start + before.length)

theorem Marks.offsetOf_positionOf {t : List Char} {p : Place} {n : Nat} (marks : Marks t p n) :
    offsetOf t (positionOf (lineTexts t) p) = .ok n := by
  obtain ⟨found, content, size⟩ := marks
  rw [positionOf, Text.getElem?_lineTexts, found, Option.map_some, Option.getD_some, content,
    ← size, columnOf_append]
  apply Text.offsetOf_column found
  rw [content, List.length_append]
  exact Nat.le_add_right _ _

/-- A place that cuts no code point is found by counting the code points before it. -/
theorem exists_marks_iff {t : List Char} {p : Place} : (∃ n, Marks t p n) ↔
    ∃ l ∈ (lines t)[p.line]?,
      (String.ofList ((l.chars t).take (columnOf (l.chars t) p.byte))).utf8ByteSize = p.byte := by
  constructor
  · rintro ⟨_, found, content, size⟩
    refine ⟨_, found, ?_⟩
    rw [content, ← size, columnOf_append, List.take_left]
  · rintro ⟨l, found, size⟩
    exact ⟨_, found, (List.take_append_drop _ _).symm, size⟩

instance (t : List Char) (p : Place) : Decidable (∃ n, Marks t p n) :=
  decidable_of_iff _ exists_marks_iff.symm

/-! ### Statements and what is in them -/

namespace Statement

/-- Where the statement stands, if it is one that an outline shows. -/
def extent? : Statement → Option Extent
  | .classDef extent .. | .functionDef extent .. => some extent
  | .assignment extent _ | .annotated extent _ => some extent
  | .other => none

def body : Statement → List Statement
  | .classDef _ _ body | .functionDef _ _ _ body => body
  | _ => []

end Statement

mutual

def Statement.preorder : Statement → List Statement
  | .classDef extent name body => .classDef extent name body :: preorder body
  | .functionDef extent name decorators body =>
    .functionDef extent name decorators body :: preorder body
  | s => [s]

/-- The statements, each before those in its body. -/
def preorder : List Statement → List Statement
  | [] => []
  | s :: rest => s.preorder ++ preorder rest

end

theorem preorder_cons (s : Statement) (rest : List Statement) :
    preorder (s :: rest) = s :: (preorder s.body ++ preorder rest) := by
  cases s <;> rfl

theorem mem_preorder_of_mem {s : Statement} {body : List Statement} (met : s ∈ body) :
    s ∈ preorder body := by
  induction body with
  | nil => cases met
  | cons first rest ih =>
    rw [preorder_cons]
    obtain rfl | met := List.mem_cons.mp met
    · exact List.mem_cons_self
    · exact List.mem_cons_of_mem _ (List.mem_append_right _ (ih met))

/-- What holds of no statements, and of a statement and those behind it if of those in its body and
of those behind it, holds of every body. -/
@[elab_as_elim]
theorem body_induction {motive : List Statement → Prop} (nil : motive [])
    (cons : ∀ s rest, motive s.body → motive rest → motive (s :: rest)) : ∀ body, motive body
  | [] => nil
  | .classDef extent name body :: rest =>
    cons (.classDef extent name body) rest (body_induction nil cons body)
      (body_induction nil cons rest)
  | .functionDef extent name decorators body :: rest =>
    cons (.functionDef extent name decorators body) rest (body_induction nil cons body)
      (body_induction nil cons rest)
  | .assignment extent targets :: rest =>
    cons (.assignment extent targets) rest nil (body_induction nil cons rest)
  | .annotated extent target :: rest =>
    cons (.annotated extent target) rest nil (body_induction nil cons rest)
  | .other :: rest => cons .other rest nil (body_induction nil cons rest)

/-- Each statement begins where the one before it does, or later. -/
def InOrder (body : List Statement) : Prop :=
  (body.filterMap (·.extent?)).Pairwise fun e f => e.start ≤ f.start

/-- The ends of statements are places of the text, in order; what is in a body is inside the
statement with that body, and one thing comes after the other. -/
structure WellPlaced (t : List Char) (body : List Statement) : Prop where
  marked : ∀ s ∈ preorder body, ∀ e ∈ s.extent?,
    (∃ a, Marks t e.start a) ∧ ∃ b, Marks t e.stop b
  ordered : ∀ s ∈ preorder body, ∀ e ∈ s.extent?, e.start ≤ e.stop
  inside : ∀ s ∈ preorder body, ∀ e ∈ s.extent?, ∀ c ∈ s.body, ∀ f ∈ c.extent?,
    e.start ≤ f.start ∧ f.stop ≤ e.stop
  sequence : InOrder body
  sequences : ∀ s ∈ preorder body, InOrder s.body

instance (body : List Statement) : Decidable (InOrder body) :=
  inferInstanceAs (Decidable (List.Pairwise _ _))

theorem wellPlaced_iff {t : List Char} {body : List Statement} : WellPlaced t body ↔
    (∀ s ∈ preorder body, InOrder s.body ∧ ∀ e ∈ s.extent?,
      ((∃ a, Marks t e.start a) ∧ ∃ b, Marks t e.stop b) ∧ e.start ≤ e.stop ∧
      ∀ c ∈ s.body, ∀ f ∈ c.extent?, e.start ≤ f.start ∧ f.stop ≤ e.stop) ∧ InOrder body := by
  constructor
  · rintro ⟨marked, ordered, inside, sequence, sequences⟩
    exact ⟨fun s met => ⟨sequences s met, fun e here =>
      ⟨marked s met e here, ordered s met e here, inside s met e here⟩⟩, sequence⟩
  · rintro ⟨each, sequence⟩
    exact ⟨fun s met e here => ((each s met).2 e here).1,
      fun s met e here => ((each s met).2 e here).2.1,
      fun s met e here => ((each s met).2 e here).2.2, sequence, fun s met => (each s met).1⟩

instance (t : List Char) (body : List Statement) : Decidable (WellPlaced t body) :=
  decidable_of_iff _ wellPlaced_iff.symm

/-! ### The symbols of statements -/

section

variable {texts : List (List Char)} {scope : Scope} {s : Statement} {x : Symbol}
  {body : List Statement}

/-- The symbol has the ends of the statement, and shows what its body shows. -/
inductive StandsFor (texts : List (List Char)) (s : Statement) (x : Symbol) : Prop
  | intro (e : Extent) (inner : Scope) : s.extent? = some e → x.start = positionOf texts e.start →
      x.stop = positionOf texts e.stop → x.children = bodySymbols texts inner s.body →
      StandsFor texts s x

theorem eq_symbolAt_of_mem_assigned {e : Extent} {names : List String}
    (met : x ∈ assigned texts scope e names) : ∃ name kind, x = symbolAt texts e name kind [] := by
  unfold assigned at met
  split at met
  · cases met
  · obtain ⟨name, _, rfl⟩ := List.mem_map.mp met
    exact ⟨name, _, rfl⟩

theorem standsFor_of_mem_statementSymbols (met : x ∈ statementSymbols texts scope s) :
    StandsFor texts s x := by
  cases s with
  | classDef e name body =>
    obtain rfl := List.mem_singleton.mp met
    exact .intro e .classBody rfl rfl rfl rfl
  | functionDef e name decorators body =>
    obtain rfl := List.mem_singleton.mp met
    exact .intro e .functionBody rfl rfl rfl rfl
  | assignment e targets =>
    obtain ⟨name, kind, rfl⟩ := eq_symbolAt_of_mem_assigned met
    exact .intro e scope rfl rfl rfl rfl
  | annotated e target =>
    obtain ⟨name, kind, rfl⟩ := eq_symbolAt_of_mem_assigned met
    exact .intro e scope rfl rfl rfl rfl
  | other => cases met

theorem exists_of_mem_bodySymbols (met : x ∈ bodySymbols texts scope body) :
    ∃ s ∈ body, StandsFor texts s x := by
  induction body with
  | nil => cases met
  | cons s rest ih =>
    obtain own | later := List.mem_append.mp met
    · exact ⟨s, List.mem_cons_self, standsFor_of_mem_statementSymbols own⟩
    · obtain ⟨c, held, stands⟩ := ih later
      exact ⟨c, List.mem_cons_of_mem _ held, stands⟩

theorem exists_of_mem_preorders (met : x ∈ Symbol.preorders (bodySymbols texts scope body)) :
    ∃ s ∈ preorder body, StandsFor texts s x := by
  induction body using body_induction generalizing scope with
  | nil => cases met
  | cons s rest inside behind =>
    simp only [preorder_cons, List.mem_cons, List.mem_append]
    rw [bodySymbols, Symbol.preorders_append, List.mem_append] at met
    obtain own | later := met
    · obtain ⟨y, held, same | below⟩ := Symbol.mem_preorders_iff.mp own
      · exact ⟨s, .inl rfl, same ▸ standsFor_of_mem_statementSymbols held⟩
      · obtain ⟨e, inner, _, _, _, children⟩ := standsFor_of_mem_statementSymbols held
        rw [children] at below
        obtain ⟨c, listed, stands⟩ := inside below
        exact ⟨c, .inr (.inl listed), stands⟩
    · obtain ⟨c, listed, stands⟩ := behind later
      exact ⟨c, .inr (.inr listed), stands⟩

theorem pairwise_bodySymbols (inOrder : InOrder body) :
    (bodySymbols texts scope body).Pairwise fun x y => x.start ≤ y.start := by
  induction body with
  | nil => exact .nil
  | cons s rest ih =>
    rw [bodySymbols, List.pairwise_append]
    refine ⟨List.pairwise_of_forall_mem_list fun x held y other => ?_, ih ?_,
      fun x own y later => ?_⟩
    · obtain ⟨e, _, here, first, _⟩ := standsFor_of_mem_statementSymbols held
      obtain ⟨f, _, again, second, _⟩ := standsFor_of_mem_statementSymbols other
      obtain rfl := Option.some.inj (here.symm.trans again)
      rw [first, second]
      exact positionOf_mono texts (.inr ⟨rfl, Nat.le_refl _⟩)
    · exact List.Pairwise.sublist ((List.sublist_cons_self s rest).filterMap _) inOrder
    · obtain ⟨e, _, here, first, _⟩ := standsFor_of_mem_statementSymbols own
      obtain ⟨c, held, f, _, there, second, _⟩ := exists_of_mem_bodySymbols later
      rw [InOrder, List.filterMap_cons_some here, List.pairwise_cons] at inOrder
      rw [first, second]
      exact positionOf_mono texts (inOrder.1 f (List.mem_filterMap.mpr ⟨c, held, there⟩))

end

/-! ### What is defined where -/

mutual

def Statement.definitions (scope : Scope) : Statement → List (String × Extent)
  | .classDef extent name body => (name, extent) :: definitions .classBody body
  | .functionDef extent name _ body => (name, extent) :: definitions .functionBody body
  | .assignment extent targets =>
    if scope = .functionBody then [] else (targetNamesAll targets).map (·, extent)
  | .annotated extent target =>
    if scope = .functionBody then [] else (targetNames target).map (·, extent)
  | .other => []

/-- The names that statements define, each before those in its body, with where the statement that
defines it stands. What functions assign is left out. -/
def definitions (scope : Scope) : List Statement → List (String × Extent)
  | [] => []
  | s :: rest => s.definitions scope ++ definitions scope rest

end

/-- What is said of a definition by the lines of a text. -/
def located (texts : List (List Char)) (d : String × Extent) : String × Position × Position :=
  (d.1, positionOf texts d.2.start, positionOf texts d.2.stop)

def told (s : Symbol) : String × Position × Position := (s.name, s.start, s.stop)

theorem map_preorders_assigned (texts : List (List Char)) (scope : Scope) (e : Extent)
    (names : List String) : (Symbol.preorders (assigned texts scope e names)).map told =
      (if scope = .functionBody then [] else names.map (·, e)).map (located texts) := by
  unfold assigned
  split
  · rfl
  · induction names with
    | nil => rfl
    | cons name rest ih =>
      rw [List.map_cons, Symbol.preorders_cons, List.map_cons, List.map_append, ih]
      rfl

theorem map_preorders_symbolAt (texts : List (List Char)) (e : Extent) (name : String)
    (kind : Outline.Kind) (children : List Symbol) :
    (Symbol.preorders [symbolAt texts e name kind children]).map told =
      located texts (name, e) :: (Symbol.preorders children).map told := by
  rw [Symbol.preorders_cons, Symbol.preorders_nil, List.append_nil, List.map_cons]
  rfl

theorem map_preorders_bodySymbols (texts : List (List Char)) (scope : Scope)
    (body : List Statement) : (Symbol.preorders (bodySymbols texts scope body)).map told =
      (definitions scope body).map (located texts) := by
  induction body using body_induction generalizing scope with
  | nil => rfl
  | cons s rest inside behind =>
    rw [bodySymbols, Symbol.preorders_append, List.map_append, behind, definitions, List.map_append]
    congr 1
    cases s with
    | classDef e name body =>
      exact (map_preorders_symbolAt ..).trans (congrArg _ (inside .classBody))
    | functionDef e name decorators body =>
      exact (map_preorders_symbolAt ..).trans (congrArg _ (inside .functionBody))
    | assignment e targets => exact map_preorders_assigned texts scope e _
    | annotated e target => exact map_preorders_assigned texts scope e _
    | other => rfl

theorem extent_eq_of_mem_assigned {scope : Scope} {e : Extent} {names : List String}
    {d : String × Extent}
    (met : d ∈ if scope = .functionBody then [] else names.map (·, e)) : e = d.2 := by
  split at met
  · cases met
  · obtain ⟨_, _, rfl⟩ := List.mem_map.mp met
    rfl

theorem exists_of_mem_definitions {scope : Scope} {body : List Statement} {d : String × Extent}
    (met : d ∈ definitions scope body) : ∃ s ∈ preorder body, s.extent? = some d.2 := by
  induction body using body_induction generalizing scope with
  | nil => cases met
  | cons s rest inside behind =>
    simp only [preorder_cons, List.mem_cons, List.mem_append]
    rw [definitions, List.mem_append] at met
    obtain own | later := met
    · have here : s.extent? = some d.2 ∨ ∃ inner, d ∈ definitions inner s.body := by
        cases s with
        | classDef | functionDef =>
          obtain rfl | below := List.mem_cons.mp own
          · exact .inl rfl
          · exact .inr ⟨_, below⟩
        | assignment | annotated => exact .inl (congrArg some (extent_eq_of_mem_assigned own))
        | other => cases own
      obtain here | ⟨inner, below⟩ := here
      · exact ⟨s, .inl rfl, here⟩
      · obtain ⟨c, listed, stands⟩ := inside below
        exact ⟨c, .inr (.inl listed), stands⟩
    · obtain ⟨c, listed, stands⟩ := behind later
      exact ⟨c, .inr (.inr listed), stands⟩

/-- The symbol has the name that is defined, and the ends of the statement that defines it. -/
structure Locates (t : List Char) (d : String × Extent) (s : Symbol) : Prop where
  name : s.name = d.1
  spans : ∃ a b, Marks t d.2.start a ∧ Marks t d.2.stop b ∧ Spans t s.start s.stop a b

variable {t : List Char} {body : List Statement}

theorem forall₂_locates (placed : WellPlaced t body) : List.Forall₂ (Locates t)
    (definitions .module body) (Symbol.preorders (moduleSymbols (lineTexts t) body)) := by
  have same := (map_preorders_bodySymbols (lineTexts t) .module body).symm
  rw [← List.forall₂_eq_eq_eq, List.forall₂_map_left_iff, List.forall₂_map_right_iff] at same
  have marked : ∀ d ∈ definitions .module body,
      (∃ a, Marks t d.2.start a) ∧ ∃ b, Marks t d.2.stop b := by
    intro d met
    obtain ⟨s, listed, here⟩ := exists_of_mem_definitions met
    exact placed.marked s listed d.2 here
  refine ((List.forall₂_and_left _ _).mpr ⟨marked, same⟩).imp fun d s => ?_
  rintro ⟨⟨⟨a, first⟩, b, second⟩, equal⟩
  obtain ⟨name, start, stop⟩ : d.1 = s.name ∧ positionOf (lineTexts t) d.2.start = s.start ∧
      positionOf (lineTexts t) d.2.stop = s.stop := by
    rw [located, told, Prod.mk.injEq, Prod.mk.injEq] at equal
    exact equal
  refine ⟨name.symm, a, b, first, second, ?_, ?_⟩
  · rw [← start]
    exact first.offsetOf_positionOf
  · rw [← stop]
    exact second.offsetOf_positionOf

/-- The symbols of a module are those of its definitions, in order, and each has the ends of its
statement in the text. A symbol holds those inside it, none begins before the one ahead of it, and
they are read as an outline wherever there are as many levels as they have. -/
theorem moduleSymbols_located (t : List Char) (body : List Statement) (placed : WellPlaced t body) :
    List.Forall₂ (Locates t) (definitions .module body)
      (Symbol.preorders (moduleSymbols (lineTexts t) body)) ∧
    (∀ s ∈ Symbol.preorders (moduleSymbols (lineTexts t) body), s.start ≤ s.stop ∧
      ∀ c ∈ s.children, s.start ≤ c.start ∧ c.stop ≤ s.stop) ∧
    (moduleSymbols (lineTexts t) body).Pairwise (fun r s => r.start ≤ s.start) ∧
    (∀ s ∈ Symbol.preorders (moduleSymbols (lineTexts t) body),
      s.children.Pairwise fun r s => r.start ≤ s.start) ∧
    ∀ limit : DepthLimit,
      (∃ nodes, read (Symbol.toRaw (moduleSymbols (lineTexts t) body)) limit = .ok nodes ∧
        Outline.Node.symbols nodes = moduleSymbols (lineTexts t) body) ↔
      Symbol.heights (moduleSymbols (lineTexts t) body) ≤ limit.levels := by
  have nested : ∀ s ∈ Symbol.preorders (moduleSymbols (lineTexts t) body), s.start ≤ s.stop ∧
      ∀ c ∈ s.children, s.start ≤ c.start ∧ c.stop ≤ s.stop := by
    intro x met
    obtain ⟨s, listed, e, inner, here, start, stop, children⟩ := exists_of_mem_preorders met
    rw [start, stop, children]
    refine ⟨positionOf_mono _ (placed.ordered s listed e here), fun y held => ?_⟩
    obtain ⟨c, among, f, _, there, start', stop', _⟩ := exists_of_mem_bodySymbols held
    obtain ⟨after, before⟩ := placed.inside s listed e here c among f there
    rw [start', stop']
    exact ⟨positionOf_mono _ after, positionOf_mono _ before⟩
  refine ⟨forall₂_locates placed, nested, pairwise_bodySymbols placed.sequence, ?_, ?_⟩
  · intro x met
    obtain ⟨s, listed, e, inner, _, _, _, children⟩ := exists_of_mem_preorders met
    rw [children]
    exact pairwise_bodySymbols (placed.sequences s listed)
  · intro limit
    constructor
    · rintro ⟨nodes, found, _⟩
      exact (Outline.read_toRaw_eq_ok_iff.mp found).2
    · intro low
      obtain ⟨nodes, made⟩ := Outline.exists_symbols_eq fun s met => (nested s met).1
      exact ⟨nodes, Outline.read_toRaw_eq_ok_iff.mpr ⟨made, low⟩, made⟩

/-- An assignment, and a class with an assignment and a function in it, on lines with each kind of
break and with code points of one to four bytes. -/
theorem moduleSymbols_located_in_other_scripts :
    ∃ body, WellPlaced "é = 1\r\nclass Ä:\r    π = '😀'\n    def 水(self): x = 1".toList body ∧
      List.Forall₂ (Locates "é = 1\r\nclass Ä:\r    π = '😀'\n    def 水(self): x = 1".toList)
        [("é", ⟨⟨0, 0⟩, ⟨0, 6⟩⟩), ("Ä", ⟨⟨1, 0⟩, ⟨3, 24⟩⟩), ("π", ⟨⟨2, 4⟩, ⟨2, 15⟩⟩),
          ("水", ⟨⟨3, 4⟩, ⟨3, 24⟩⟩)]
        (Symbol.preorders (moduleSymbols
          (lineTexts "é = 1\r\nclass Ä:\r    π = '😀'\n    def 水(self): x = 1".toList) body)) ∧
      ∃ nodes, read (Symbol.toRaw (moduleSymbols
        (lineTexts "é = 1\r\nclass Ä:\r    π = '😀'\n    def 水(self): x = 1".toList) body))
          (.ofInt 2) = .ok nodes := by
  have placed : WellPlaced "é = 1\r\nclass Ä:\r    π = '😀'\n    def 水(self): x = 1".toList
      [.assignment ⟨⟨0, 0⟩, ⟨0, 6⟩⟩ [.name "é"],
        .classDef ⟨⟨1, 0⟩, ⟨3, 24⟩⟩ "Ä" [.assignment ⟨⟨2, 4⟩, ⟨2, 15⟩⟩ [.name "π"],
          .functionDef ⟨⟨3, 4⟩, ⟨3, 24⟩⟩ "水" [] [.assignment ⟨⟨3, 19⟩, ⟨3, 24⟩⟩ [.name "x"]]]] := by
    decide
  obtain ⟨located, _, _, _, outlined⟩ := moduleSymbols_located _ _ placed
  obtain ⟨nodes, found, _⟩ := (outlined (.ofInt 2)).mpr (by decide)
  exact ⟨_, placed, located, nodes, found⟩

end OpenDocs.Program
