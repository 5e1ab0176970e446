import OpenDocs.Proofs.Diff.Blocks

/-!
# A sequence and itself

The longest of the runs that are found first is on the diagonal, also if some or all of the items are
too common to begin a run, and it takes in everything. So the one block of a sequence and itself is
the whole sequence.
-/

namespace OpenDocs.Diff

theorem map_fst_extendRuns (before : List (Nat × Nat)) (js : List Nat) :
    (extendRuns before js).map Prod.fst = js := by
  fun_induction extendRuns before js with
  | case1 => rfl
  | case3 _ _ _ _ _ _ ih => exact ih
  | case2 _ _ ih | case4 _ _ _ _ _ ih | case5 _ _ _ _ _ _ _ ih => rw [List.map_cons, ih]

/-- A run that can go on does. -/
theorem mem_extendRuns {before : List (Nat × Nat)} {js : List Nat}
    (sorted : (before.map Prod.fst).Pairwise (· < ·)) (sorted' : js.Pairwise (· < ·)) {p n : Nat}
    (held : (p, n) ∈ before) (next : p + 1 ∈ js) : (p + 1, n + 1) ∈ extendRuns before js := by
  fun_induction extendRuns before js with
  | case1 => cases next
  | case2 => cases held
  | case3 q k before j js less ih =>
    obtain ⟨_, sorted⟩ := List.pairwise_cons.mp sorted
    obtain same | held := List.mem_cons.mp held
    · cases same
      have low : ∀ i ∈ j :: js, j ≤ i := List.forall_mem_cons.mpr
        ⟨Nat.le_refl j, fun i met => Nat.le_of_lt ((List.pairwise_cons.mp sorted').1 i met)⟩
      exact absurd (low _ next) (Nat.not_le_of_lt less)
    · exact ih sorted sorted' held next
  | case4 q k before js _ ih =>
    obtain ⟨above, sorted⟩ := List.pairwise_cons.mp sorted
    obtain ⟨_, sorted'⟩ := List.pairwise_cons.mp sorted'
    obtain same | held := List.mem_cons.mp held
    · cases same
      exact List.mem_cons_self
    · have beyond := above p (List.mem_map_of_mem (f := Prod.fst) held)
      obtain same | next := List.mem_cons.mp next
      · omega
      · exact List.mem_cons_of_mem _ (ih sorted sorted' held next)
  | case5 q k before j js _ _ ih =>
    have beyond : q ≤ p := by
      obtain same | held := List.mem_cons.mp held
      · cases same
        exact Nat.le_refl _
      · have above := (List.pairwise_cons.mp sorted).1 p (List.mem_map_of_mem (f := Prod.fst) held)
        exact Nat.le_of_lt above
    obtain same | next := List.mem_cons.mp next
    · omega
    · exact List.mem_cons_of_mem _ (ih sorted (List.pairwise_cons.mp sorted').2 held next)

section
variable {places : Array (List Nat)} {low high start : Nat}

/-- The list has, by place, the longest runs that end before item `i`. -/
structure EndBefore (places : Array (List Nat)) (low high start i : Nat) (runs : List (Nat × Nat)) :
    Prop where
  sorted : (runs.map Prod.fst).Pairwise (· < ·)
  sound : ∀ j k, (j, k) ∈ runs → ∃ last, last + 1 = i ∧ Run places low high start last j k
  complete : ∀ last j k, last + 1 = i → 0 < k → Run places low high start last j k →
    ∃ longest, k ≤ longest ∧ (j, longest) ∈ runs

theorem Run.mem_placesAt {i j k : Nat} (run : Run places low high start i j k) (held : 0 < k) :
    j ∈ placesAt places low high i := by
  have below := run.new_le
  exact Diff.mem_placesAt.mpr ⟨run.listed 0 held, by omega, run.new_lt⟩

/-- Without its last item a run is still a run. -/
theorem Run.shorten {i j k : Nat} (run : Run places low high start i j (k + 1)) (held : 0 < k) :
    ∃ i' j', i = i' + 1 ∧ j = j' + 1 ∧ Run places low high start i' j' k := by
  have old_le := run.old_le
  have new_le := run.new_le
  have new_lt := run.new_lt
  obtain ⟨i, rfl⟩ := Nat.exists_eq_succ_of_ne_zero (show i ≠ 0 by omega)
  obtain ⟨j, rfl⟩ := Nat.exists_eq_succ_of_ne_zero (show j ≠ 0 by omega)
  refine ⟨i, j, rfl, rfl, by omega, by omega, by omega, fun m less => ?_⟩
  have listed := run.listed (m + 1) (Nat.succ_lt_succ less)
  rwa [Nat.succ_eq_add_one, Nat.succ_eq_add_one, Nat.add_sub_add_right, Nat.add_sub_add_right]
    at listed

theorem EndBefore.extend {i : Nat} {runs : List (Nat × Nat)}
    (ends : EndBefore places low high start i runs) (from_start : start ≤ i)
    (ascending : (places[i]?.getD []).Pairwise (· < ·)) :
    EndBefore places low high start (i + 1) (extendRuns runs (placesAt places low high i)) := by
  have row : (placesAt places low high i).Pairwise (· < ·) := ascending.filter _
  refine ⟨?_, fun j k met => ⟨i, rfl, run_of_mem_extendRuns from_start ends.sound met⟩, ?_⟩
  · rwa [map_fst_extendRuns]
  · rintro last j (_ | _ | k) same held run
    · cases held
    · obtain rfl := Nat.succ.inj same
      have met := run.mem_placesAt held
      rw [← map_fst_extendRuns runs (placesAt places low high last), List.mem_map] at met
      obtain ⟨⟨_, longest⟩, met, rfl⟩ := met
      refine ⟨longest, ?_, met⟩
      obtain ⟨_, rfl | ⟨_, _, _, _, rfl⟩⟩ := of_mem_extendRuns met
      · exact Nat.le_refl 1
      · exact Nat.succ_le_succ (Nat.zero_le _)
    · obtain rfl := Nat.succ.inj same
      have met := run.mem_placesAt held
      obtain ⟨i', j', rfl, rfl, shorter⟩ := run.shorten (Nat.succ_pos k)
      obtain ⟨longest, less, before⟩ := ends.complete i' j' _ rfl (Nat.succ_pos k) shorter
      exact ⟨longest + 1, Nat.succ_le_succ less, mem_extendRuns ends.sorted row before met⟩

theorem longer_of_le {i : Nat} {best : Block} {runs : List (Nat × Nat)}
    (short : ∀ j k, (j, k) ∈ runs → k ≤ best.size) : longer i best runs = best := by
  induction runs with
  | nil => rfl
  | cons run runs ih =>
    obtain ⟨j, k⟩ := run
    rw [longer_cons, if_neg (Nat.not_lt_of_le (short j k List.mem_cons_self))]
    exact ih fun j k met => short j k (List.mem_cons_of_mem _ met)

theorem longer_append (i : Nat) (best : Block) (left right : List (Nat × Nat)) :
    longer i best (left ++ right) = longer i (longer i best left) right := List.foldl_append

/-- One run decides if those before it are no longer than the best so far, and those behind it no
longer than either. -/
theorem longer_of_around {i j s : Nat} {best : Block} {left right : List (Nat × Nat)}
    (before : ∀ p k, (p, k) ∈ left → k ≤ best.size)
    (behind : ∀ p k, (p, k) ∈ right → k ≤ max best.size s) :
    longer i best (left ++ (j, s) :: right) =
      if best.size < s then ⟨i + 1 - s, j + 1 - s, s⟩ else best := by
  rw [longer_append, longer_of_le before, longer_cons, longer_of_le]
  intro p k met
  have short := behind p k met
  split
  · next less => exact Nat.le_trans short (Nat.max_le.mpr ⟨Nat.le_of_lt less, Nat.le_refl s⟩)
  · next less => exact Nat.le_trans short (Nat.max_le.mpr ⟨Nat.le_refl _, Nat.le_of_not_lt less⟩)

end

section
variable {Item : Type} [DecidableEq Item] {items : List Item}

theorem ascending_indicesOf (x : Item) (items : List Item) :
    (indicesOf x items).Pairwise (· < ·) := by
  have indices : (items.zipIdx.map (·.2)).Pairwise (· < ·) := by
    rw [List.zipIdx_map_snd]
    exact List.pairwise_lt_range'
  exact indices.sublist (List.filter_sublist.map _)

theorem ascending_candidates (i : Nat) :
    ((candidates items items)[i]?.getD []).Pairwise (· < ·) := by
  rw [getElem?_candidates]
  split
  · exact .nil
  · split
    · exact .nil
    · exact ascending_indicesOf _ items

/-- Where an item has a candidate, it and the candidate are candidates of both. -/
theorem mem_candidates_self {i j : Nat} (met : j ∈ (candidates items items)[i]?.getD []) :
    i ∈ (candidates items items)[i]?.getD [] ∧ j ∈ (candidates items items)[j]?.getD [] := by
  obtain ⟨x, here, there⟩ := same_of_mem_candidates met
  rw [getElem?_candidates, here] at met ⊢
  rw [getElem?_candidates, there]
  simp only at met ⊢
  split at met
  · cases met
  · next rare =>
    rw [if_neg rare]
    exact ⟨mem_indicesOf.mpr here, mem_indicesOf.mpr there⟩

variable {i j k : Nat}

theorem Run.diagonal (run : Run (candidates items items) 0 items.length 0 i j k) (held : 0 < k) :
    Run (candidates items items) 0 items.length 0 i i k ∧
      Run (candidates items items) 0 items.length 0 j j k := by
  have old_le := run.old_le
  have new_le := run.new_le
  obtain ⟨x, here, _⟩ := same_of_mem_candidates (run.listed 0 held)
  obtain ⟨less, _⟩ := List.getElem?_eq_some_iff.mp here
  exact ⟨⟨by omega, by omega, less, fun m less => (mem_candidates_self (run.listed m less)).1⟩,
    ⟨by omega, by omega, run.new_lt, fun m less => (mem_candidates_self (run.listed m less)).2⟩⟩

/-- The block is on the diagonal, and no shorter than any run there before item `i`. -/
structure Diagonal (items : List Item) (i : Nat) (best : Block) : Prop where
  old_eq : best.old = best.new
  longest : ∀ d k, d < i → Run (candidates items items) 0 items.length 0 d d k → k ≤ best.size

theorem Diagonal.longer {best : Block} {runs : List (Nat × Nat)} (diagonal : Diagonal items i best)
    (ends : EndBefore (candidates items items) 0 items.length 0 (i + 1) runs) :
    Diagonal items (i + 1) (longer i best runs) := by
  have sound : ∀ j k, (j, k) ∈ runs → Run (candidates items items) 0 items.length 0 i j k := by
    intro j k met
    obtain ⟨last, same, run⟩ := ends.sound j k met
    obtain rfl := Nat.succ.inj same
    exact run
  by_cases met : ∃ s, (i, s) ∈ runs
  · obtain ⟨s, met⟩ := met
    obtain ⟨left, right, rfl⟩ := List.append_of_mem met
    have sorted := ends.sorted
    rw [List.map_append, List.map_cons, List.pairwise_append, List.pairwise_cons] at sorted
    obtain ⟨_, ⟨above, _⟩, below⟩ := sorted
    have below : ∀ j k, (j, k) ∈ left → j < i := fun j k held =>
      below j (List.mem_map_of_mem (f := Prod.fst) held) i List.mem_cons_self
    have above : ∀ j k, (j, k) ∈ right → i < j := fun j k held =>
      above j (List.mem_map_of_mem (f := Prod.fst) held)
    have best_here : ∀ k, Run (candidates items items) 0 items.length 0 i i k → k ≤ s := by
      rintro (_ | k) run
      · exact Nat.zero_le s
      · obtain ⟨longest, less, held⟩ := ends.complete i i _ rfl (Nat.succ_pos k) run
        rw [List.mem_append, List.mem_cons] at held
        obtain held | same | held := held
        · exact absurd (below i longest held) (Nat.lt_irrefl i)
        · cases same
          exact less
        · exact absurd (above i longest held) (Nat.lt_irrefl i)
    -- what comes before the diagonal was met on it in an earlier row
    have before : ∀ j k, (j, k) ∈ left → k ≤ best.size := by
      rintro j (_ | k) held
      · exact Nat.zero_le _
      · have run := sound j _ (List.mem_append_left _ held)
        exact diagonal.longest j _ (below j _ held) (run.diagonal (Nat.succ_pos k)).2
    have behind : ∀ j k, (j, k) ∈ right → k ≤ max best.size s := by
      rintro j (_ | k) held
      · exact Nat.zero_le _
      · have run := sound j _ (List.mem_append_right _ (List.mem_cons_of_mem _ held))
        exact Nat.le_trans (best_here _ (run.diagonal (Nat.succ_pos k)).1) (Nat.le_max_right _ _)
    rw [longer_of_around before behind]
    split
    · next less =>
      refine ⟨rfl, fun d k earlier run => ?_⟩
      obtain earlier | rfl := Nat.lt_succ_iff_lt_or_eq.mp earlier
      · exact Nat.le_of_lt (Nat.lt_of_le_of_lt (diagonal.longest d k earlier run) less)
      · exact best_here k run
    · next less =>
      refine ⟨diagonal.old_eq, fun d k earlier run => ?_⟩
      obtain earlier | rfl := Nat.lt_succ_iff_lt_or_eq.mp earlier
      · exact diagonal.longest d k earlier run
      · exact Nat.le_trans (best_here k run) (Nat.le_of_not_lt less)
  · have none : ∀ k, Run (candidates items items) 0 items.length 0 i i k → k = 0 := by
      rintro (_ | k) run
      · rfl
      · obtain ⟨longest, _, held⟩ := ends.complete i i _ rfl (Nat.succ_pos k) run
        exact absurd ⟨longest, held⟩ met
    rw [longer_of_le fun j k held => ?_]
    · refine ⟨diagonal.old_eq, fun d k less run => ?_⟩
      obtain less | rfl := Nat.lt_succ_iff_lt_or_eq.mp less
      · exact diagonal.longest d k less run
      · exact none k run ▸ Nat.zero_le _
    · obtain _ | k := k
      · exact Nat.zero_le _
      · exact absurd (none _ ((sound j _ held).diagonal (Nat.succ_pos k)).1) (Nat.succ_ne_zero k)

theorem Diagonal.longestRun {before : List (Nat × Nat)} {best : Block}
    (diagonal : Diagonal items i best) (count : Nat)
    (ends : EndBefore (candidates items items) 0 items.length 0 i before) :
    Diagonal items (i + count)
      (longestRun (candidates items items) 0 items.length count i before best) := by
  induction count generalizing i before best with
  | zero => exact diagonal
  | succ count ih =>
    have next := ends.extend (Nat.zero_le i) (ascending_candidates i)
    have grown := ih (diagonal.longer next) next
    rwa [Nat.add_right_comm, Nat.add_assoc] at grown

theorem growBack_self (d size : Nat) :
    growBack items.toArray items.toArray 0 0 ⟨d, d, size⟩ = ⟨0, 0, d + size⟩ := by
  induction d generalizing size with
  | zero => rw [growBack, if_neg fun room => Nat.lt_irrefl 0 room.1, Nat.zero_add]
  | succ d ih =>
    rw [growBack, if_pos ⟨Nat.succ_pos d, Nat.succ_pos d, rfl⟩]
    exact (ih (size + 1)).trans (by rw [Nat.add_right_comm, Nat.add_assoc])

theorem growOn_self {size : Nat} (le : size ≤ items.length) :
    growOn items.toArray items.toArray items.length items.length ⟨0, 0, size⟩ =
      ⟨0, 0, items.length⟩ := by
  induction more : items.length - size generalizing size with
  | zero =>
    obtain rfl : size = items.length := Nat.le_antisymm le (Nat.le_of_sub_eq_zero more)
    rw [growOn, if_neg]
    intro room
    simp at room
  | succ more ih =>
    have less : 0 + size < items.length := by omega
    have later := ih (show size + 1 ≤ items.length by omega) (by omega)
    rw [growOn, if_pos ⟨less, less, rfl⟩]
    exact later

theorem longestBlock_self (items : List Item) :
    longestBlock items.toArray items.toArray (candidates items items) 0 items.length 0 items.length =
      ⟨0, 0, items.length⟩ := by
  have start : Diagonal items 0 ⟨0, 0, 0⟩ := ⟨rfl, fun d k less => absurd less (Nat.not_lt_zero d)⟩
  have none : EndBefore (candidates items items) 0 items.length 0 0 [] :=
    ⟨.nil, by simp, fun last j k same => absurd same (Nat.succ_ne_zero last)⟩
  have diagonal := start.longestRun (items.length - 0) none
  have ends : ∀ b, longestRun (candidates items items) 0 items.length (items.length - 0) 0 []
      ⟨0, 0, 0⟩ = b → b.old + b.size ≤ items.length := by
    rintro _ rfl
    obtain nothing | ⟨last, j, k, less, _, run, found⟩ :=
      longestRun_start (candidates items items) 0 items.length 0 (items.length - 0)
    · rw [nothing]
      exact Nat.zero_le _
    · rw [found]
      have old_le := run.old_le
      simp only
      omega
  rw [longestBlock]
  generalize longestRun (candidates items items) 0 items.length (items.length - 0) 0 []
    ⟨0, 0, 0⟩ = run at diagonal ends ⊢
  obtain ⟨d, d', size⟩ := run
  obtain rfl : d = d' := diagonal.old_eq
  have le := ends _ rfl
  rw [growBack_self]
  exact growOn_self le

/-- A sequence matches itself as a whole. -/
theorem matchingBlocks_self (items : List Item) :
    matchingBlocks items items = if items = [] then [] else [⟨0, 0, items.length⟩] := by
  rw [matchingBlocks, blocksWithin, longestBlock_self]
  split
  · next none =>
    rw [if_pos (List.length_eq_zero_iff.mp none)]
    rfl
  · next some =>
    rw [if_neg (mt List.length_eq_zero_iff.mpr some), if_neg (by simp), if_neg (by simp)]
    rfl

end

end OpenDocs.Diff
