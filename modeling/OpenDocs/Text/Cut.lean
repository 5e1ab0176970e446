/-!
# Texts cut at a mark

`cut` gives the pieces between the marks, and `join` puts them together again. A text here is a list
of whatever it consists of, mostly characters.
-/

namespace OpenDocs.Text

variable {α : Type} [DecidableEq α]

/-- The pieces between the marks, the empty ones too. -/
def cut (mark : α) : List α → List (List α)
  | [] => [[]]
  | c :: cs =>
    if c = mark then [] :: cut mark cs
    else match cut mark cs with
      | [] => [[c]]
      | piece :: rest => (c :: piece) :: rest

def join {α : Type} (mark : α) : List (List α) → List α
  | [] => []
  | [piece] => piece
  | piece :: rest => piece ++ mark :: join mark rest

theorem cut_ne_nil (mark : α) (cs : List α) : cut mark cs ≠ [] := by
  cases cs with
  | nil => simp [cut]
  | cons c cs => simp only [cut]; split <;> try split
                 all_goals simp

theorem join_cut (mark : α) (cs : List α) : join mark (cut mark cs) = cs := by
  induction cs with
  | nil => rfl
  | cons c cs ih =>
    simp only [cut]
    split
    · next h =>
      obtain ⟨piece, rest, e⟩ := List.exists_cons_of_ne_nil (cut_ne_nil mark cs)
      rw [e] at ih ⊢
      simp [join, ih, h]
    · cases e : cut mark cs with
      | nil => exact absurd e (cut_ne_nil mark cs)
      | cons piece rest =>
        rw [e] at ih
        cases rest <;> simp_all [join]

theorem cut_of_not_mem {mark : α} {piece : List α} (free : mark ∉ piece) :
    cut mark piece = [piece] := by
  induction piece with
  | nil => rfl
  | cons c cs ih =>
    obtain ⟨other, later⟩ := not_or.mp (mt List.mem_cons.mpr free)
    simp only [cut, if_neg (Ne.symm other), ih later]

theorem cut_append_mark {mark : α} {piece : List α} (free : mark ∉ piece) (rest : List α) :
    cut mark (piece ++ mark :: rest) = piece :: cut mark rest := by
  induction piece with
  | nil => simp only [List.nil_append, cut, if_pos]
  | cons c cs ih =>
    obtain ⟨other, later⟩ := not_or.mp (mt List.mem_cons.mpr free)
    simp only [List.cons_append, cut, if_neg (Ne.symm other), ih later]

/-- Pieces that each end in a mark are found again, and nothing behind the last mark. -/
theorem cut_flatMap_append_mark {Item : Type} {mark : α} {piece : Item → List α}
    {items : List Item} (free : ∀ x ∈ items, mark ∉ piece x) :
    cut mark (items.flatMap fun x => piece x ++ [mark]) = items.map piece ++ [[]] := by
  induction items with
  | nil => rfl
  | cons x rest ih =>
    have later := ih fun y held => free y (List.mem_cons_of_mem x held)
    rw [List.flatMap_cons, List.append_assoc, List.singleton_append,
      cut_append_mark (free x List.mem_cons_self), later, List.map_cons, List.cons_append]

/-- What stands before the first mark, and what behind it, can be told apart. -/
theorem append_mark_inj {mark : α} {first second rest rest' : List α} (free : mark ∉ first)
    (free' : mark ∉ second) (same : first ++ mark :: rest = second ++ mark :: rest') :
    first = second ∧ rest = rest' := by
  have pieces := congrArg (cut mark) same
  rw [cut_append_mark free, cut_append_mark free', List.cons.injEq] at pieces
  refine ⟨pieces.1, ?_⟩
  rw [← join_cut mark rest, pieces.2, join_cut]

/-- What stands before the last mark, and what behind it, can be told apart. -/
theorem mark_append_inj {mark : α} {first second rest rest' : List α} (free : mark ∉ rest)
    (free' : mark ∉ rest') (same : first ++ mark :: rest = second ++ mark :: rest') :
    first = second ∧ rest = rest' := by
  have turned := congrArg List.reverse same
  simp only [List.reverse_append, List.reverse_cons, List.append_assoc, List.singleton_append]
    at turned
  obtain ⟨behind, before⟩ := append_mark_inj (by simpa using free) (by simpa using free') turned
  exact ⟨List.reverse_inj.mp before, List.reverse_inj.mp behind⟩

/-- The pieces of a text at a mark, as texts. -/
def pieces (mark : Char) (s : String) : List String := (cut mark s.toList).map String.ofList

end OpenDocs.Text
