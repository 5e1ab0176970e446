import Mathlib.Data.List.TakeWhile
import OpenDocs.Log.Record
import OpenDocs.Text.Cut

/-!
# Names of loggers as they are written

A logger lies within another if its name is the other's, or goes on from it after dots at which the
other is looked up: after one dot, but not after two, unless the name that ends in the first of them
is a logger's too.
-/

namespace OpenDocs.Log.Name

variable {known : List String} {passed : Bool} {c : Char} {cs outer : List Char}

/-- Whether a name that goes on after a number of dots is looked up at the first of them. Of two
dots in a row the first is passed over, unless the name up to it is known. -/
def leads (known : List String) (outer : List Char) : Nat → Bool
  | 0 => false
  | 1 => true
  | k + 2 =>
    if String.ofList (outer ++ List.replicate (k + 1) '.') ∈ known then leads known outer (k + 1)
    else leads known outer k

/-- The number of dots that stand directly behind a name in one that begins with it. -/
def dotsBehind (outer name : List Char) : Nat :=
  ((name.drop outer.length).takeWhile (· = '.')).length

/-- A name is another or goes on from it after dots that lead there. -/
def Below (known : List String) (name outer : String) : Prop :=
  name = outer ∨ outer.toList <+: name.toList ∧
    leads known outer.toList (dotsBehind outer.toList name.toList) = true

instance (known : List String) (name outer : String) : Decidable (Below known name outer) :=
  inferInstanceAs (Decidable (_ ∨ _))

theorem isWithin_iff {n outer : Name} : n.isWithin outer = true ↔ outer <:+ n :=
  List.isSuffixOf_iff_suffix

/-! ### Parts -/

theorem partsBack_ne_nil (known : List String) (passed : Bool) (cs : List Char) :
    partsBack known passed cs ≠ [] := by
  induction cs generalizing passed with
  | nil => simp [partsBack]
  | cons c cs ih =>
    rw [partsBack]
    split
    · exact List.cons_ne_nil _ _
    · exact mt List.modifyHead_eq_nil_iff.mp (ih false)

/-- The parts with dots between them are the name. -/
theorem join_partsBack (known : List String) (passed : Bool) (cs : List Char) :
    Text.join '.' (partsBack known passed cs) = cs := by
  induction cs generalizing passed with
  | nil => rfl
  | cons c cs ih =>
    rw [partsBack]
    split
    · next dot =>
      obtain ⟨part, rest, parts⟩ := List.exists_cons_of_ne_nil (partsBack_ne_nil known
        (String.ofList cs.reverse ∉ known) cs)
      have whole := ih (String.ofList cs.reverse ∉ known)
      rw [parts] at whole ⊢
      rw [Text.join, whole, dot.1, List.nil_append]
      exact List.cons_ne_nil part rest
    · obtain ⟨part, rest, parts⟩ := List.exists_cons_of_ne_nil (partsBack_ne_nil known false cs)
      have whole := ih false
      rw [parts] at whole ⊢
      cases rest <;> simp_all [Text.join]

theorem partsBack_inj {passed' : Bool} {ds : List Char}
    (same : partsBack known passed cs = partsBack known passed' ds) : cs = ds := by
  rw [← join_partsBack known passed cs, same, join_partsBack]

/-- A dot is passed over only if there is one. -/
theorem partsBack_of_head_ne (plain : cs.head? ≠ some '.') (passed passed' : Bool) :
    partsBack known passed cs = partsBack known passed' cs := by
  cases cs with
  | nil => rfl
  | cons c cs =>
    have other : c ≠ '.' := fun dot => plain (by rw [dot]; rfl)
    rw [partsBack, if_neg fun dot => other dot.1, partsBack, if_neg fun dot => other dot.1]

/-! ### Loggers looked up -/

/-- Whether a name is come to from one, by the dots in it. Both are given from the end. -/
def Reaches (known : List String) (outer : List Char) (passed : Bool) (cs : List Char) : Prop :=
  partsBack known false outer <:+ (partsBack known passed cs).tail

theorem suffix_partsBack_iff : partsBack known false outer <:+ partsBack known passed cs ↔
    partsBack known false outer = partsBack known passed cs ∨ Reaches known outer passed cs := by
  obtain ⟨part, rest, parts⟩ := List.exists_cons_of_ne_nil (partsBack_ne_nil known passed cs)
  rw [Reaches, parts, List.suffix_cons_iff, List.tail_cons]

theorem not_reaches_nil : ¬ Reaches known outer passed [] := by
  rw [Reaches, partsBack, List.tail_cons, List.suffix_nil]
  exact partsBack_ne_nil known false outer

theorem reaches_dot (filled : cs ≠ []) : Reaches known outer false ('.' :: cs) ↔
    partsBack known false outer = partsBack known (String.ofList cs.reverse ∉ known) cs ∨
      Reaches known outer (String.ofList cs.reverse ∉ known) cs := by
  rw [Reaches, partsBack, if_pos ⟨rfl, rfl, filled⟩, List.tail_cons, suffix_partsBack_iff]

theorem reaches_cons (plain : ¬ (c = '.' ∧ passed = false ∧ cs ≠ [])) :
    Reaches known outer passed (c :: cs) ↔ Reaches known outer false cs := by
  rw [Reaches, partsBack, if_neg plain, List.tail_modifyHead, Reaches]

/-- A name that is come to is a shorter one that stands in front. -/
theorem suffix_tail_of_reaches (reached : Reaches known outer passed cs) : outer <:+ cs.tail := by
  induction cs generalizing passed with
  | nil => exact absurd reached not_reaches_nil
  | cons c cs ih =>
    by_cases dot : c = '.' ∧ passed = false ∧ cs ≠ []
    · obtain ⟨rfl, rfl, filled⟩ := dot
      rcases (reaches_dot filled).mp reached with same | later
      · exact partsBack_inj same ▸ List.suffix_rfl
      · exact (ih later).trans (List.tail_suffix cs)
    · exact (ih ((reaches_cons dot).mp reached)).trans (List.tail_suffix cs)

theorem not_reaches_self (filled : outer ≠ []) : ¬ Reaches known outer passed outer := by
  intro reached
  have shorter := (suffix_tail_of_reaches reached).length_le
  have := List.length_pos_iff.mpr filled
  rw [List.length_tail] at shorter
  omega

theorem partsBack_ne_of_shorter {passed' : Bool} (shorter : outer.length < cs.length) :
    partsBack known passed outer ≠ partsBack known passed' cs :=
  fun same => (Nat.ne_of_lt shorter) (congrArg List.length (partsBack_inj same))

/-- From behind several dots a name is come to just if they lead there. -/
theorem reaches_dots (plain : outer.head? ≠ some '.') (filled : outer ≠ []) (k : Nat) :
    Reaches known outer false (List.replicate k '.' ++ outer) ↔
      leads known outer.reverse k = true := by
  have more (k : Nat) : List.replicate k '.' ++ outer ≠ [] :=
    List.append_ne_nil_of_right_ne_nil _ filled
  have written (k : Nat) : (List.replicate k '.' ++ outer).reverse =
      outer.reverse ++ List.replicate k '.' := by
    rw [List.reverse_append, List.reverse_replicate]
  have shorter (k : Nat) : outer.length < (List.replicate (k + 1) '.' ++ outer).length := by
    rw [List.length_append, List.length_replicate]
    omega
  induction k using leads.induct known outer.reverse with
  | case1 => exact iff_of_false (not_reaches_self filled) (by simp [leads])
  | case2 =>
    rw [List.replicate_one, List.singleton_append, reaches_dot filled]
    exact iff_of_true (.inl (partsBack_of_head_ne plain _ _)) rfl
  | case3 k asked ih =>
    rw [leads, if_pos asked, List.replicate_succ, List.cons_append, reaches_dot (more (k + 1)),
      or_iff_right (partsBack_ne_of_shorter (shorter k)), written,
      decide_eq_false (not_not_intro asked)]
    exact ih
  | case4 k unknown ih =>
    rw [leads, if_neg unknown, List.replicate_succ, List.cons_append, reaches_dot (more (k + 1)),
      or_iff_right (partsBack_ne_of_shorter (shorter k)), written, decide_eq_true unknown,
      List.replicate_succ, List.cons_append, reaches_cons (by simp)]
    exact ih

/-- What stands behind the dots does not matter. -/
theorem reaches_append {rest : List Char} (begun : rest.getLast? ≠ some '.') (filled : rest ≠ [])
    (within : outer.length ≤ cs.length) :
    Reaches known outer passed (rest ++ cs) ↔ Reaches known outer false cs := by
  induction rest generalizing passed with
  | nil => exact absurd rfl filled
  | cons c rest ih =>
    rw [List.cons_append]
    by_cases last : rest = []
    · have plain : c ≠ '.' := fun dot => begun (by rw [dot, last]; rfl)
      rw [last, List.nil_append]
      exact reaches_cons fun dot => plain dot.1
    have later : rest.getLast? ≠ some '.' := by
      rwa [List.getLast?_cons, List.getLast?_eq_some_getLast last, Option.getD_some, ←
        List.getLast?_eq_some_getLast last] at begun
    have shorter : outer.length < (rest ++ cs).length := by
      have := List.length_pos_iff.mpr last
      rw [List.length_append]
      omega
    by_cases dot : c = '.' ∧ passed = false ∧ rest ++ cs ≠ []
    · obtain ⟨rfl, rfl, more⟩ := dot
      rw [reaches_dot more, or_iff_right (partsBack_ne_of_shorter shorter), ih later last]
    · rw [reaches_cons dot, ih later last]

/-- Behind a name in front of another stand its dots, and then no more of them. -/
theorem exists_behind_dots {name : List Char} (begins : outer <+: name) : ∃ rest : List Char,
    name = outer ++ List.replicate (dotsBehind outer name) '.' ++ rest ∧
      rest.head? ≠ some '.' := by
  obtain ⟨behind, rfl⟩ := begins
  refine ⟨behind.dropWhile (· = '.'), ?_, fun dot => ?_⟩
  · have dots : behind.takeWhile (· = '.') =
        List.replicate (dotsBehind outer (outer ++ behind)) '.' := by
      refine List.eq_replicate_iff.mpr ⟨by rw [dotsBehind, List.drop_left], fun _ held => ?_⟩
      simpa using List.mem_takeWhile_imp held
    rw [← dots, List.append_assoc, List.takeWhile_append_dropWhile]
  · simpa [dot] using List.head?_dropWhile_not (· = '.') behind

/-- From a name that goes on from it, another is come to just if the dots behind it lead there. -/
theorem reaches_iff {name : List Char} (plain : outer.getLast? ≠ some '.') (filled : outer ≠ []) :
    Reaches known outer.reverse false name.reverse ↔
      outer <+: name ∧ leads known outer (dotsBehind outer name) = true := by
  by_cases begins : outer <+: name
  · obtain ⟨rest, whole, later⟩ := exists_behind_dots begins
    have dots : Reaches known outer.reverse false
        (List.replicate (dotsBehind outer name) '.' ++ outer.reverse) ↔
          leads known outer.reverse.reverse (dotsBehind outer name) = true :=
      reaches_dots (by simpa using plain) (by simpa using filled) _
    rw [List.reverse_reverse] at dots
    rw [and_iff_right begins, ← dots]
    have turned : name.reverse =
        rest.reverse ++ (List.replicate (dotsBehind outer name) '.' ++ outer.reverse) := by
      rw [congrArg List.reverse whole, List.reverse_append, List.reverse_append,
        List.reverse_replicate]
    rw [turned]
    by_cases last : rest = []
    · rw [last, List.reverse_nil, List.nil_append]
    · refine reaches_append (by simpa using later) (by simpa using last) ?_
      rw [List.length_append]
      exact Nat.le_add_left _ _
  · refine iff_of_false (fun reached => begins ?_) fun below => begins below.1
    have behind := (suffix_tail_of_reaches reached).trans (List.tail_suffix name.reverse)
    exact List.reverse_suffix.mp behind

/-! ### Written names -/

theorem ofString_of_named {name : String} (named : ¬ (name = "" ∨ name = "root")) :
    ofString known name =
      (partsBack known false name.toList.reverse).map fun part => String.ofList part.reverse := by
  rw [ofString, if_neg (by simpa using named)]

/-- The root's written names have no dot. -/
theorem not_below_of_root {name outer : String} (root : name = "" ∨ name = "root")
    (named : ¬ (outer = "" ∨ outer = "root")) : ¬ Below known name outer := by
  rintro (rfl | ⟨begins, dots⟩)
  · exact named root
  · obtain ⟨rest, whole, _⟩ := exists_behind_dots begins
    have none_ : dotsBehind outer.toList name.toList = 0 := by
      by_contra some_
      have dot : '.' ∈ name.toList := by
        rw [whole]
        exact List.mem_append_left _
          (List.mem_append_right _ (List.mem_replicate.mpr ⟨some_, rfl⟩))
      rcases root with rfl | rfl <;> exact absurd dot (by decide)
    rw [none_, leads] at dots
    exact absurd dots Bool.false_ne_true

theorem isWithin_ofString_iff {name outer : String} (named : ¬ (outer = "" ∨ outer = "root"))
    (plain : outer.toList.getLast? ≠ some '.') :
    (ofString known name).isWithin (ofString known outer) = true ↔ Below known name outer := by
  have injective : Function.Injective fun part : List Char => String.ofList part.reverse :=
    fun _ _ same => List.reverse_inj.mp (String.ofList_injective same)
  have filled : outer.toList ≠ [] := fun none_ => named (.inl (String.toList_eq_nil_iff.mp none_))
  rw [isWithin_iff, ofString_of_named named]
  by_cases root : name = "" ∨ name = "root"
  · refine iff_of_false ?_ (not_below_of_root root named)
    rw [ofString, if_pos (by simpa using root), List.suffix_nil, List.map_eq_nil_iff]
    exact partsBack_ne_nil known false _
  · rw [ofString_of_named root, List.suffix_map_iff_of_injective injective, suffix_partsBack_iff,
      reaches_iff plain filled, Below]
    refine or_congr_left ⟨fun same => ?_, fun same => same ▸ rfl⟩
    exact (String.toList_inj.mp (List.reverse_inj.mp (partsBack_inj same))).symm

/-- The second of two dots leads past the name, unless there is a logger that ends in the first. -/
example : ¬ Below [] "httpx..x" "httpx" ∧ Below ["httpx."] "httpx..x" "httpx" ∧
    Below [] "httpx...x" "httpx" := by decide

end OpenDocs.Log.Name
