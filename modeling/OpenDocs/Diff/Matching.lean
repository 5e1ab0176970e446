/-!
# Matching blocks of two sequences

The longest run that the sequences share is found, of several the one that begins first in the
old sequence and then first in the new one; what lies before it and behind it is matched in the
same way. Items that are too common in a long new sequence are no place to begin a run, but a run
may take them in at its ends.
-/

namespace OpenDocs.Diff

/-- `size` items from `old` on equal those from `new` on. -/
structure Block where
  old : Nat
  new : Nat
  size : Nat
  deriving DecidableEq

section
variable {Item : Type} [DecidableEq Item]

def indicesOf (x : Item) (items : List Item) : List Nat :=
  (items.zipIdx.filter (·.1 = x)).map (·.2)

/-- From 200 items on, an item is common that makes up more than one in a hundred. -/
def isCommon (length count : Nat) : Bool := 200 ≤ length && length / 100 + 1 < count

/-- For each old item the places of the new sequence where a run may begin with it. -/
def candidates (old new : List Item) : Array (List Nat) :=
  (old.map fun x =>
    let places := indicesOf x new
    if isCommon new.length places.length then [] else places).toArray

/-- The lengths of the runs that end at an old item and the places given, when `before` has the
lengths that end at the item before it. Both lists go by place. -/
def extendRuns : List (Nat × Nat) → List Nat → List (Nat × Nat)
  | _, [] => []
  | [], j :: js => (j, 1) :: extendRuns [] js
  | (p, k) :: before, j :: js =>
    if p + 1 < j then extendRuns before (j :: js)
    else if p + 1 = j then (j, k + 1) :: extendRuns before js
    else (j, 1) :: extendRuns ((p, k) :: before) js
termination_by before js => before.length + js.length

theorem of_mem_extendRuns {before : List (Nat × Nat)} {js : List Nat} {j k : Nat}
    (met : (j, k) ∈ extendRuns before js) :
    j ∈ js ∧ (k = 1 ∨ ∃ p n, (p, n) ∈ before ∧ j = p + 1 ∧ k = n + 1) := by
  fun_induction extendRuns before js with
  | case1 => cases met
  | case2 i js ih =>
    obtain met | met := List.mem_cons.mp met
    · cases met
      exact ⟨List.mem_cons_self, .inl rfl⟩
    · exact ⟨List.mem_cons_of_mem i (ih met).1, (ih met).2⟩
  | case3 p n before i js _ ih =>
    refine ⟨(ih met).1, (ih met).2.imp id ?_⟩
    rintro ⟨p', n', held, next⟩
    exact ⟨p', n', List.mem_cons_of_mem _ held, next⟩
  | case4 p n before js _ ih =>
    obtain met | met := List.mem_cons.mp met
    · cases met
      exact ⟨List.mem_cons_self, .inr ⟨p, n, List.mem_cons_self, rfl, rfl⟩⟩
    · refine ⟨List.mem_cons_of_mem _ (ih met).1, (ih met).2.imp id ?_⟩
      rintro ⟨p', n', held, next⟩
      exact ⟨p', n', List.mem_cons_of_mem _ held, next⟩
  | case5 p n before i js _ _ ih =>
    obtain met | met := List.mem_cons.mp met
    · cases met
      exact ⟨List.mem_cons_self, .inl rfl⟩
    · exact ⟨List.mem_cons_of_mem i (ih met).1, (ih met).2⟩

/-- Keeps the first of the longest runs; these end at item `i`. -/
def longer (i : Nat) (best : Block) (runs : List (Nat × Nat)) : Block :=
  runs.foldl (fun b (j, k) => if b.size < k then ⟨i + 1 - k, j + 1 - k, k⟩ else b) best

theorem longer_cons (i : Nat) (best : Block) (j k : Nat) (runs : List (Nat × Nat)) :
    longer i best ((j, k) :: runs) =
      longer i (if best.size < k then ⟨i + 1 - k, j + 1 - k, k⟩ else best) runs := rfl

theorem longer_cases (i : Nat) (best : Block) (runs : List (Nat × Nat)) :
    longer i best runs = best ∨
      ∃ j k, (j, k) ∈ runs ∧ 0 < k ∧ longer i best runs = ⟨i + 1 - k, j + 1 - k, k⟩ := by
  induction runs generalizing best with
  | nil => exact .inl rfl
  | cons run runs ih =>
    obtain ⟨j, k⟩ := run
    rw [longer_cons]
    obtain same | ⟨j', k', held, positive, found⟩ :=
      ih (if best.size < k then ⟨i + 1 - k, j + 1 - k, k⟩ else best)
    · rw [same]
      split
      · next less => exact .inr ⟨j, k, List.mem_cons_self, Nat.zero_lt_of_lt less, rfl⟩
      · exact .inl rfl
    · exact .inr ⟨j', k', List.mem_cons_of_mem _ held, positive, found⟩

section
variable (places : Array (List Nat)) (low high : Nat)

/-- The places from `low` on and before `high` where a run may take in item `i`. -/
def placesAt (i : Nat) : List Nat :=
  (places[i]?.getD []).filter fun j => low ≤ j ∧ j < high

/-- The longest run of candidates with old items from `i` on and new places from `low` to `high`. -/
def longestRun : Nat → Nat → List (Nat × Nat) → Block → Block
  | 0, _, _, best => best
  | count + 1, i, before, best =>
    let runs := extendRuns before (placesAt places low high i)
    longestRun count (i + 1) runs (longer i best runs)

variable {places low high}

/-- As many items as the size says, from `start` on, end at item `i` and have candidates that end at
place `j`. -/
structure Run (places : Array (List Nat)) (low high start i j size : Nat) : Prop where
  old_le : start + size ≤ i + 1
  new_le : low + size ≤ j + 1
  new_lt : j < high
  listed : ∀ m, m < size → j - m ∈ places[i - m]?.getD []

theorem mem_placesAt {i j : Nat} :
    j ∈ placesAt places low high i ↔ j ∈ places[i]?.getD [] ∧ low ≤ j ∧ j < high := by
  rw [placesAt, List.mem_filter, decide_eq_true_eq]

theorem Run.single {start i j : Nat} (from_start : start ≤ i)
    (met : j ∈ placesAt places low high i) :
    Run places low high start i j 1 := by
  obtain ⟨listed, above, below⟩ := mem_placesAt.mp met
  refine ⟨by omega, by omega, below, fun m less => ?_⟩
  obtain rfl : m = 0 := Nat.lt_one_iff.mp less
  exact listed

theorem Run.extend {start i j size : Nat} (run : Run places low high start i j size)
    (met : j + 1 ∈ placesAt places low high (i + 1)) :
    Run places low high start (i + 1) (j + 1) (size + 1) := by
  obtain ⟨listed, above, below⟩ := mem_placesAt.mp met
  have old_le := run.old_le
  have new_le := run.new_le
  refine ⟨by omega, by omega, below, fun m less => ?_⟩
  cases m with
  | zero => exact listed
  | succ m =>
    rw [Nat.add_sub_add_right, Nat.add_sub_add_right]
    exact run.listed m (Nat.lt_of_succ_lt_succ less)

theorem run_of_mem_extendRuns {start i : Nat} {before : List (Nat × Nat)} (from_start : start ≤ i)
    (runs : ∀ j k, (j, k) ∈ before → ∃ last, last + 1 = i ∧ Run places low high start last j k)
    {j k : Nat}
    (met : (j, k) ∈ extendRuns before (placesAt places low high i)) :
    Run places low high start i j k := by
  obtain ⟨held, rfl | ⟨p, n, before_held, rfl, rfl⟩⟩ := of_mem_extendRuns met
  · exact .single from_start held
  · obtain ⟨last, rfl, run⟩ := runs p n before_held
    exact run.extend held

/-- What is found is a run, unless there is nothing better than at first. -/
theorem longestRun_cases {start : Nat} (count i : Nat) (before : List (Nat × Nat)) (best : Block)
    (from_start : start ≤ i)
    (runs : ∀ j k, (j, k) ∈ before → ∃ last, last + 1 = i ∧ Run places low high start last j k) :
    longestRun places low high count i before best = best ∨
      ∃ last j k, last < i + count ∧ 0 < k ∧ Run places low high start last j k ∧
        longestRun places low high count i before best = ⟨last + 1 - k, j + 1 - k, k⟩ := by
  induction count generalizing i before best with
  | zero => exact .inl rfl
  | succ count ih =>
    rw [longestRun]
    have here := fun j k => run_of_mem_extendRuns (j := j) (k := k) from_start runs
    obtain same | ⟨last, j, k, less, positive, run, found⟩ :=
      ih (i + 1) (extendRuns before (placesAt places low high i))
        (longer i best (extendRuns before (placesAt places low high i))) (Nat.le_succ_of_le from_start)
        fun j k met => ⟨i, rfl, here j k met⟩
    · rw [same]
      obtain none | ⟨j, k, met, positive, found⟩ :=
        longer_cases i best (extendRuns before (placesAt places low high i))
      · exact .inl none
      · exact .inr ⟨i, j, k, by omega, positive, here j k met, found⟩
    · exact .inr ⟨last, j, k, by omega, positive, run, found⟩

theorem longestRun_start (places : Array (List Nat)) (low high start count : Nat) :
    longestRun places low high count start [] ⟨start, low, 0⟩ = ⟨start, low, 0⟩ ∨
      ∃ last j k, last < start + count ∧ 0 < k ∧ Run places low high start last j k ∧
        longestRun places low high count start [] ⟨start, low, 0⟩ =
          ⟨last + 1 - k, j + 1 - k, k⟩ :=
  longestRun_cases count start [] _ (Nat.le_refl start) fun _ _ met => nomatch met

end

variable (old new : Array Item)

/-- Takes in equal items before the block, down to the bounds. -/
def growBack (oldLow newLow : Nat) (b : Block) : Block :=
  if oldLow < b.old ∧ newLow < b.new ∧ old[b.old - 1]? = new[b.new - 1]? then
    growBack oldLow newLow ⟨b.old - 1, b.new - 1, b.size + 1⟩
  else b
termination_by b.old

/-- Takes in equal items behind the block, up to the bounds. -/
def growOn (oldHigh newHigh : Nat) (b : Block) : Block :=
  if b.old + b.size < oldHigh ∧ b.new + b.size < newHigh
      ∧ old[b.old + b.size]? = new[b.new + b.size]? then
    growOn oldHigh newHigh { b with size := b.size + 1 }
  else b
termination_by oldHigh - (b.old + b.size)

def longestBlock (places : Array (List Nat)) (oldLow oldHigh newLow newHigh : Nat) : Block :=
  let run := longestRun places newLow newHigh (oldHigh - oldLow) oldLow [] ⟨oldLow, newLow, 0⟩
  growOn old new oldHigh newHigh (growBack old new oldLow newLow run)

/-- The block starts within the bounds, and ends there if it holds anything. -/
structure Block.Within (oldLow oldHigh newLow newHigh : Nat) (b : Block) : Prop where
  old_ge : oldLow ≤ b.old
  new_ge : newLow ≤ b.new
  le : 0 < b.size → b.old + b.size ≤ oldHigh ∧ b.new + b.size ≤ newHigh

variable {old new} {oldLow oldHigh newLow newHigh : Nat}

theorem growBack_within {b : Block} (within : b.Within oldLow oldHigh newLow newHigh)
    (held : 0 < b.size) : (growBack old new oldLow newLow b).Within oldLow oldHigh newLow newHigh := by
  fun_induction growBack old new oldLow newLow b with
  | case1 b room ih =>
    have ends := within.le held
    refine ih ⟨?_, ?_, fun _ => ?_⟩ (Nat.succ_pos _)
    · exact Nat.le_sub_one_of_lt room.1
    · exact Nat.le_sub_one_of_lt room.2.1
    · simp only
      omega
  | case2 b _ => exact within

theorem growOn_within {b : Block} (within : b.Within oldLow oldHigh newLow newHigh) :
    (growOn old new oldHigh newHigh b).Within oldLow oldHigh newLow newHigh := by
  fun_induction growOn old new oldHigh newHigh b with
  | case1 b room ih => exact ih ⟨within.old_ge, within.new_ge, fun _ => ⟨room.1, room.2.1⟩⟩
  | case2 b _ => exact within

theorem longestBlock_within (places : Array (List Nat)) :
    (longestBlock old new places oldLow oldHigh newLow newHigh).Within oldLow oldHigh newLow newHigh := by
  rw [longestBlock]
  apply growOn_within
  obtain none | ⟨last, j, k, less, positive, run, found⟩ :=
    longestRun_start places newLow newHigh oldLow (oldHigh - oldLow)
  · rw [none, growBack, if_neg fun room => Nat.lt_irrefl _ room.1]
    exact ⟨Nat.le_refl _, Nat.le_refl _, fun held => absurd held (Nat.lt_irrefl _)⟩
  · rw [found]
    have old_le := run.old_le
    have new_le := run.new_le
    have new_lt := run.new_lt
    refine growBack_within ⟨?_, ?_, fun _ => ?_⟩ positive
    all_goals
      simp only
      omega

variable (old new)

/-- The blocks between the bounds, in order. -/
def blocksWithin (places : Array (List Nat)) (oldLow oldHigh newLow newHigh : Nat) : List Block :=
  let b := longestBlock old new places oldLow oldHigh newLow newHigh
  if b.size = 0 then []
  else
    let before :=
      if oldLow < b.old ∧ newLow < b.new then blocksWithin places oldLow b.old newLow b.new
      else []
    let behind :=
      if b.old + b.size < oldHigh ∧ b.new + b.size < newHigh then
        blocksWithin places (b.old + b.size) oldHigh (b.new + b.size) newHigh
      else []
    before ++ b :: behind
termination_by oldHigh - oldLow
decreasing_by
  all_goals
    have within : (longestBlock old new places oldLow oldHigh newLow newHigh).Within oldLow oldHigh
      newLow newHigh := longestBlock_within places
    have held : 0 < (longestBlock old new places oldLow oldHigh newLow newHigh).size :=
      Nat.pos_of_ne_zero ‹¬b.size = 0›
    have ends := within.le held
    have starts := within.old_ge
    omega

end

/-- Joins blocks that follow one another directly. -/
def joinBlocks : List Block → List Block
  | [] => []
  | b :: rest =>
    match joinBlocks rest with
    | c :: more =>
      if b.old + b.size = c.old ∧ b.new + b.size = c.new then
        ⟨b.old, b.new, b.size + c.size⟩ :: more
      else b :: c :: more
    | [] => [b]

def matchingBlocks {Item : Type} [DecidableEq Item] (old new : List Item) : List Block :=
  joinBlocks (blocksWithin old.toArray new.toArray (candidates old new) 0 old.length 0 new.length)

end OpenDocs.Diff
