import OpenDocs.Proofs.Diff.Identity
import OpenDocs.Proofs.Diff.Steps

/-!
# Hunks cover the changes

Outside of the hunks both sequences are the same; a hunk leads from its old items to its new ones,
changes something, and has no more kept items at its ends than it may have.
-/

namespace OpenDocs.Diff

variable {Item : Type} {old new : List Item}

namespace Step

def size (s : Step) : Nat := s.oldStop - s.oldStart

/-- Some of the items of a kept step. -/
def part (s : Step) (start stop : Nat) : Step :=
  ⟨true, s.oldStart + start, s.oldStart + stop, s.newStart + start, s.newStart + stop⟩

/-- A kept step is no longer than that. -/
def Short (limit : Nat) (s : Step) : Prop := s.kept = true → s.size ≤ limit

namespace Valid

variable {s : Step} {start stop : Nat}

theorem old_stop (valid : s.Valid old new) : s.oldStart + s.size = s.oldStop :=
  Nat.add_sub_cancel' valid.old_le

theorem new_stop (valid : s.Valid old new) (kept : s.kept = true) :
    s.newStart + s.size = s.newStop := by
  have lengths := congrArg List.length (valid.same kept)
  rw [length_span, length_span, Nat.min_eq_left valid.old_length,
    Nat.min_eq_left valid.new_length] at lengths
  rw [size, lengths, Nat.add_sub_cancel' valid.new_le]

theorem part_same (valid : s.Valid old new) (kept : s.kept = true) (start : Nat)
    (within : stop ≤ s.size) :
    span old (s.oldStart + start) (s.oldStart + stop) =
      span new (s.newStart + start) (s.newStart + stop) := by
  have old_stop := valid.old_stop
  have new_stop := valid.new_stop kept
  have same := congrArg (fun items => (items.take stop).drop start) (valid.same kept)
  simp only [take_span, drop_span] at same
  rwa [Nat.min_eq_right (by omega), Nat.min_eq_right (by omega)] at same

theorem part (valid : s.Valid old new) (kept : s.kept = true) (ordered : start ≤ stop)
    (within : stop ≤ s.size) : (s.part start stop).Valid old new := by
  have old_stop := valid.old_stop
  have new_stop := valid.new_stop kept
  have old_length := valid.old_length
  have new_length := valid.new_length
  refine ⟨?_, ?_, ?_, ?_, fun _ => valid.part_same kept start within, fun changed => nomatch changed⟩
  all_goals
    simp only [Step.part]
    omega

theorem firstItems_eq (valid : s.Valid old new) (kept : s.kept = true) (limit : Nat) :
    s.firstItems limit = s.part 0 (min limit s.size) := by
  have old_stop := valid.old_stop
  have new_stop := valid.new_stop kept
  simp only [firstItems, Step.part, kept, Nat.add_zero, Step.mk.injEq, true_and]
  omega

theorem lastItems_eq (valid : s.Valid old new) (kept : s.kept = true) (limit : Nat) :
    s.lastItems limit = s.part (s.size - limit) s.size := by
  have old_stop := valid.old_stop
  have new_stop := valid.new_stop kept
  simp only [lastItems, Step.part, kept, Step.mk.injEq, true_and]
  omega

end Valid

theorem size_part (s : Step) (start stop : Nat) : (s.part start stop).size = stop - start :=
  Nat.add_sub_add_left ..

end Step

theorem kept_trimFirst (limit : Nat) (ss : List Step) :
    (trimFirst limit ss).map Step.kept = ss.map Step.kept := by
  cases ss with
  | nil => rfl
  | cons s rest =>
    rw [trimFirst]
    split <;> rfl

theorem kept_trimLast (limit : Nat) (ss : List Step) :
    (trimLast limit ss).map Step.kept = ss.map Step.kept := by
  fun_induction trimLast limit ss with
  | case1 => rfl
  | case2 s => split <;> rfl
  | case3 s rest _ ih => rw [List.map_cons, List.map_cons, ih]

theorem trimFirst_leads {i j oldStop newStop : Nat} {ss : List Step} (limit : Nat)
    (leads : Leads old new i j oldStop newStop ss) :
    ∃ i' j', i ≤ i' ∧ j ≤ j' ∧ span old i i' = span new j j' ∧
      Leads old new i' j' oldStop newStop (trimFirst limit ss) ∧
      ∀ s ∈ (trimFirst limit ss).head?, s.Short limit := by
  cases leads with
  | nil => exact ⟨i, j, Nat.le_refl i, Nat.le_refl j, by simp, .nil, by simp [trimFirst]⟩
  | @cons _ _ _ _ s rest old_eq new_eq valid rest_leads =>
    subst old_eq new_eq
    rw [trimFirst]
    split
    · next kept =>
      rw [valid.lastItems_eq kept]
      refine ⟨s.oldStart + (s.size - limit), s.newStart + (s.size - limit), Nat.le_add_right _ _,
        Nat.le_add_right _ _, valid.part_same kept 0 (Nat.sub_le _ _),
        .cons rfl rfl (valid.part kept (Nat.sub_le _ _) (Nat.le_refl _)) ?_, ?_⟩
      · simpa only [Step.part, valid.old_stop, valid.new_stop kept] using rest_leads
      · rintro _ ⟨⟩ _
        rw [Step.size_part]
        omega
    · next changed =>
      refine ⟨_, _, Nat.le_refl _, Nat.le_refl _, by simp, .cons rfl rfl valid rest_leads, ?_⟩
      rintro _ ⟨⟩ kept
      exact absurd kept changed

theorem trimLast_leads {i j oldStop newStop : Nat} {ss : List Step} (limit : Nat)
    (leads : Leads old new i j oldStop newStop ss) :
    ∃ oldStop' newStop', oldStop' ≤ oldStop ∧ newStop' ≤ newStop ∧
      span old oldStop' oldStop = span new newStop' newStop ∧
      Leads old new i j oldStop' newStop' (trimLast limit ss) ∧
      (∀ s ∈ (trimLast limit ss).getLast?, s.Short limit) ∧
      ((∀ s ∈ ss.head?, s.Short limit) → ∀ s ∈ (trimLast limit ss).head?, s.Short limit) := by
  fun_induction trimLast limit ss generalizing i j with
  | case1 =>
    exact ⟨oldStop, newStop, Nat.le_refl _, Nat.le_refl _, by simp, leads, by simp, by simp⟩
  | case2 s =>
    cases leads with
    | cons old_eq new_eq valid rest_leads =>
      cases rest_leads
      subst old_eq new_eq
      split
      · next kept =>
        have same := valid.part_same kept (min limit s.size) (Nat.le_refl _)
        rw [valid.old_stop, valid.new_stop kept] at same
        have short : ∀ t ∈ [s.part 0 (min limit s.size)].head?, t.Short limit := by
          rintro _ ⟨⟩ _
          rw [Step.size_part]
          omega
        rw [valid.firstItems_eq kept]
        refine ⟨s.oldStart + min limit s.size, s.newStart + min limit s.size, ?_, ?_, same,
          .cons rfl rfl (valid.part kept (Nat.zero_le _) (Nat.min_le_right _ _)) .nil, short,
          fun _ => short⟩
        · rw [← valid.old_stop]
          exact Nat.add_le_add_left (Nat.min_le_right _ _) _
        · rw [← valid.new_stop kept]
          exact Nat.add_le_add_left (Nat.min_le_right _ _) _
      · next changed =>
        have short : ∀ t ∈ [s].head?, t.Short limit := by
          rintro _ ⟨⟩ kept
          exact absurd kept changed
        exact ⟨_, _, Nat.le_refl _, Nat.le_refl _, by simp, .single valid, short, fun _ => short⟩
  | case3 s rest nonempty ih =>
    cases leads with
    | cons old_eq new_eq valid rest_leads =>
      obtain ⟨oldStop', newStop', old_le, new_le, same, shorter, last, _⟩ := ih rest_leads
      refine ⟨oldStop', newStop', old_le, new_le, same, .cons old_eq new_eq valid shorter, ?_,
        fun first => first⟩
      obtain ⟨t, more, more_eq⟩ : ∃ t more, trimLast limit rest = t :: more := by
        refine List.exists_cons_of_ne_nil fun none => nonempty ?_
        have flags := kept_trimLast limit rest
        rwa [none, List.map_nil, eq_comm, List.map_eq_nil_iff] at flags
      rw [more_eq] at last ⊢
      rwa [List.getLast?_cons_cons]

/-- The hunk leads over its own bounds, changes something, and keeps little at its ends. -/
structure Hunk.Good (old new : List Item) (limit : Nat) (h : Hunk) : Prop where
  leads : Leads old new h.oldStart h.newStart h.oldStop h.newStop h
  changes : ∃ s ∈ h, s.kept = false
  alternate : Alternate h
  first : ∀ s ∈ h.head?, s.Short limit
  last : ∀ s ∈ h.getLast?, s.Short limit

/-- Good hunks in order, with some of the same items on both sides between any two. Before the first
and behind the last both sides are the same too. -/
inductive Hunked (old new : List Item) (limit : Nat) : Nat → Nat → Nat → Nat → List Hunk → Prop
  | nil {i j oldStop newStop : Nat} : i ≤ oldStop → j ≤ newStop →
      span old i oldStop = span new j newStop → Hunked old new limit i j oldStop newStop []
  | cons {i j oldStop newStop : Nat} {h : Hunk} {rest : List Hunk} : i ≤ h.oldStart →
      j ≤ h.newStart → span old i h.oldStart = span new j h.newStart → h.Good old new limit →
      (∀ k ∈ rest.head?, h.oldStop < k.oldStart ∧ h.newStop < k.newStart) →
      Hunked old new limit h.oldStop h.newStop oldStop newStop rest →
      Hunked old new limit i j oldStop newStop (h :: rest)

section bounds
variable {i j oldStop newStop : Nat} {h : Hunk}

theorem Leads.hunk_start (leads : Leads old new i j oldStop newStop h) (some : h ≠ []) :
    h.oldStart = i ∧ h.newStart = j := by
  cases leads with
  | nil => exact absurd rfl some
  | cons old_eq new_eq => exact ⟨old_eq, new_eq⟩

theorem Leads.hunk_stop (leads : Leads old new i j oldStop newStop h) (some : h ≠ []) :
    h.oldStop = oldStop ∧ h.newStop = newStop := by
  induction leads with
  | nil => exact absurd rfl some
  | @cons _ _ _ _ s rest _ _ _ rest_leads ih =>
    cases rest with
    | nil =>
      cases rest_leads
      exact ⟨rfl, rfl⟩
    | cons t rest =>
      obtain ⟨old_eq, new_eq⟩ := ih (List.cons_ne_nil t rest)
      refine ⟨?_, ?_⟩
      · rwa [Hunk.oldStop, List.getLast?_cons_cons]
      · rwa [Hunk.newStop, List.getLast?_cons_cons]

theorem Leads.good {limit : Nat} (leads : Leads old new i j oldStop newStop h)
    (changes : ∃ s ∈ h, s.kept = false) (alternate : Alternate h)
    (first : ∀ s ∈ h.head?, s.Short limit) (last : ∀ s ∈ h.getLast?, s.Short limit) :
    h.Good old new limit := by
  obtain ⟨s, met, _⟩ := id changes
  obtain ⟨old_start, new_start⟩ := leads.hunk_start (List.ne_nil_of_mem met)
  obtain ⟨old_stop, new_stop⟩ := leads.hunk_stop (List.ne_nil_of_mem met)
  refine ⟨?_, changes, alternate, first, last⟩
  rwa [old_start, new_start, old_stop, new_stop]

end bounds

namespace Hunked

variable {i j oldMid newMid oldStop newStop limit : Nat} {h : Hunk} {rest : List Hunk}

theorem lead (leads : Leads old new i j oldMid newMid h) (good : h.Good old new limit)
    (apart : ∀ k ∈ rest.head?, oldMid < k.oldStart ∧ newMid < k.newStart)
    (later : Hunked old new limit oldMid newMid oldStop newStop rest) :
    Hunked old new limit i j oldStop newStop (h :: rest) ∧ h.oldStart = i ∧ h.newStart = j := by
  obtain ⟨s, met, _⟩ := good.changes
  have start := leads.hunk_start (List.ne_nil_of_mem met)
  obtain ⟨old_start, new_start⟩ := id start
  obtain ⟨old_stop, new_stop⟩ := leads.hunk_stop (List.ne_nil_of_mem met)
  refine ⟨.cons (Nat.le_of_eq old_start.symm) (Nat.le_of_eq new_start.symm) ?_ good ?_ ?_, start⟩
  · rw [old_start, new_start, span_self, span_self]
  · rwa [old_stop, new_stop]
  · rwa [old_stop, new_stop]

theorem before {hs : List Hunk} (hunked : Hunked old new limit oldMid newMid oldStop newStop hs)
    (old_le : i ≤ oldMid) (new_le : j ≤ newMid) (same : span old i oldMid = span new j newMid) :
    Hunked old new limit i j oldStop newStop hs := by
  cases hunked with
  | nil old_le' new_le' same' =>
    refine .nil (Nat.le_trans old_le old_le') (Nat.le_trans new_le new_le') ?_
    rw [← span_append old_le old_le', ← span_append new_le new_le', same, same']
  | cons old_le' new_le' same' good apart later =>
    refine .cons (Nat.le_trans old_le old_le') (Nat.le_trans new_le new_le') ?_ good apart later
    rw [← span_append old_le old_le', ← span_append new_le new_le', same, same']

theorem behind {hs : List Hunk} (hunked : Hunked old new limit i j oldMid newMid hs)
    (old_le : oldMid ≤ oldStop) (new_le : newMid ≤ newStop)
    (same : span old oldMid oldStop = span new newMid newStop) :
    Hunked old new limit i j oldStop newStop hs := by
  induction hunked with
  | nil old_le' new_le' same' =>
    refine .nil (Nat.le_trans old_le' old_le) (Nat.le_trans new_le' new_le) ?_
    rw [← span_append old_le' old_le, ← span_append new_le' new_le, same, same']
  | cons old_le' new_le' same' good apart _ ih =>
    exact .cons old_le' new_le' same' good apart (ih old_le new_le same)

end Hunked

/-- What is left at the end is a hunk if it changes anything. -/
theorem splitHunks_nil {i j oldStop newStop limit : Nat} {open_ : Hunk}
    (opened : Leads old new i j oldStop newStop open_) (alternate : Alternate open_)
    (first : ∀ s ∈ open_.head?, s.Short limit) (last : ∀ s ∈ open_.getLast?, s.Short limit) :
    Hunked old new limit i j oldStop newStop (splitHunks limit open_ []) ∧
      ∀ h ∈ (splitHunks limit open_ []).head?, h.oldStart = i ∧ h.newStart = j := by
  have hunk : (∃ s ∈ open_, s.kept = false) → Hunked old new limit i j oldStop newStop [open_] ∧
      ∀ h ∈ [open_].head?, h.oldStart = i ∧ h.newStart = j := by
    intro changes
    have done : Hunked old new limit oldStop newStop oldStop newStop [] :=
      .nil (Nat.le_refl _) (Nat.le_refl _) (by simp)
    have hunked := Hunked.lead opened (opened.good changes alternate first last) (by simp) done
    refine ⟨hunked.1, ?_⟩
    rintro _ ⟨⟩
    exact hunked.2
  cases open_ with
  | nil =>
    cases opened
    exact ⟨.nil (Nat.le_refl _) (Nat.le_refl _) (by simp), by simp [splitHunks]⟩
  | cons s more =>
    cases more with
    | nil =>
      rw [splitHunks]
      split
      · next kept =>
        cases opened with
        | cons old_eq new_eq valid rest_leads =>
          cases rest_leads
          subst old_eq new_eq
          exact ⟨.nil valid.old_le valid.new_le (valid.same kept), by simp⟩
      · next changed => exact hunk ⟨s, List.mem_cons_self, Bool.eq_false_iff.mpr changed⟩
    | cons t more =>
      refine hunk ?_
      cases kept : s.kept with
      | false => exact ⟨s, List.mem_cons_self, kept⟩
      | true =>
        have other := (alternate_cons.mp alternate).1 t rfl
        exact ⟨t, List.mem_cons_of_mem _ List.mem_cons_self, by simpa [kept] using other⟩

/-- The steps up to the first items of a long kept step are a hunk: a change is among them, since
the first step is short and no kept step comes right before the long one. -/
theorem Leads.good_up_to {i j limit : Nat} {open_ : Hunk} {s : Step} {rest : List Step}
    (opened : Leads old new i j s.oldStart s.newStart open_) (valid : s.Valid old new)
    (kept : s.kept = true) (long : limit < s.size) (alternate : Alternate (open_ ++ s :: rest))
    (first : ∀ t ∈ (open_ ++ s :: rest).head?, t.Short limit) :
    Leads old new i j (s.oldStart + limit) (s.newStart + limit) (open_ ++ [s.part 0 limit]) ∧
      Hunk.Good old new limit (open_ ++ [s.part 0 limit]) := by
  obtain rfl | ⟨init, change, rfl⟩ := List.eq_nil_or_concat' open_
  · exact absurd (first s rfl kept) (Nat.not_le_of_lt long)
  obtain ⟨opened_alternate, _, meet⟩ := alternate_append.mp alternate
  have changed : change.kept = false := by simpa [kept] using meet change (by simp) s rfl
  have head_valid : (s.part 0 limit).Valid old new :=
    valid.part kept (Nat.zero_le _) (Nat.le_of_lt long)
  have leads : Leads old new i j (s.oldStart + limit) (s.newStart + limit)
      (init ++ [change] ++ [s.part 0 limit]) := opened.append (.single (s := s.part 0 limit) head_valid)
  refine ⟨leads, leads.good ⟨change, by simp, changed⟩ ?_ ?_ ?_⟩
  · exact alternate_append.mpr ⟨opened_alternate, .singleton _, by simp [changed]⟩
  · simpa using first
  · intro t met _
    obtain rfl : s.part 0 limit = t := by simpa using met
    exact Nat.le_of_eq (Step.size_part ..)

/-- Each hunk that is split off is good, and the next one starts behind what they have in common. -/
theorem splitHunks_hunked {i j oldMid newMid oldStop newStop limit : Nat} {open_ : Hunk}
    {rest : List Step} (opened : Leads old new i j oldMid newMid open_)
    (left : Leads old new oldMid newMid oldStop newStop rest) (alternate : Alternate (open_ ++ rest))
    (first : ∀ s ∈ (open_ ++ rest).head?, s.Short limit)
    (last : ∀ s ∈ (open_ ++ rest).getLast?, s.Short limit) :
    Hunked old new limit i j oldStop newStop (splitHunks limit open_ rest) ∧
      ∀ h ∈ (splitHunks limit open_ rest).head?, h.oldStart = i ∧ h.newStart = j := by
  induction rest generalizing i j oldMid newMid open_ with
  | nil =>
    cases left
    rw [List.append_nil] at alternate first last
    exact splitHunks_nil opened alternate first last
  | cons s rest ih =>
    cases left with
    | cons old_eq new_eq valid rest_leads =>
      subst old_eq new_eq
      rw [splitHunks]
      split
      · next long =>
        obtain ⟨kept, long⟩ : s.kept = true ∧ limit + limit < s.size := by
          simpa [Step.isLong, Step.size] using long
        obtain ⟨head_leads, good⟩ := opened.good_up_to valid kept (by omega) alternate first
        have tail_short : (s.part (s.size - limit) s.size).Short limit := fun _ => by
          rw [Step.size_part]
          omega
        have tail_leads : Leads old new (s.oldStart + (s.size - limit)) (s.newStart + (s.size - limit))
            s.oldStop s.newStop [s.part (s.size - limit) s.size] := by
          have leads := Leads.single (valid.part kept (Nat.sub_le s.size limit) (Nat.le_refl _))
          simpa only [Step.part, valid.old_stop, valid.new_stop kept] using leads
        have tail_last : ∀ t ∈ (s.part (s.size - limit) s.size :: rest).getLast?, t.Short limit := by
          cases rest with
          | nil =>
            rintro _ ⟨⟩
            exact tail_short
          | cons t more => simpa [List.getLast?_append] using last
        obtain ⟨later, start⟩ := ih tail_leads rest_leads
          (alternate_cons.mpr (by
            simpa [Step.part, kept] using alternate_cons.mp (alternate_append.mp alternate).2.1))
          (by simpa using tail_short) tail_last
        have later := later.before (i := s.oldStart + limit) (j := s.newStart + limit) (by omega)
          (by omega) (valid.part_same kept limit (Nat.sub_le _ _))
        rw [valid.firstItems_eq kept, valid.lastItems_eq kept, Nat.min_eq_left (by omega)]
        obtain ⟨hunked, own_start⟩ := Hunked.lead head_leads good
          (fun k met => by have := start k met; omega) later
        refine ⟨hunked, ?_⟩
        rintro _ ⟨⟩
        exact own_start
      · next short =>
        rw [List.append_cons] at alternate first last
        exact ih (opened.append (.single valid)) rest_leads alternate first last

section
variable [DecidableEq Item]

theorem hunks_hunked (limit : Nat) (old new : List Item) :
    Hunked old new limit 0 0 old.length new.length (hunks limit old new) := by
  obtain ⟨i, j, old_start, new_start, same_start, leads, first⟩ :=
    trimFirst_leads limit (steps_leads old new)
  obtain ⟨oldStop, newStop, old_stop, new_stop, same_stop, leads, last, head⟩ :=
    trimLast_leads limit leads
  have alternate : Alternate (trimLast limit (trimFirst limit (steps old new))) := by
    rw [Alternate, kept_trimLast, kept_trimFirst]
    exact steps_alternate old new
  have hunked := (splitHunks_hunked .nil leads alternate (head first) last).1
  exact (hunked.before old_start new_start same_start).behind old_stop new_stop same_stop

theorem steps_self (items : List Item) :
    steps items items = if items = [] then [] else [⟨true, 0, items.length, 0, items.length⟩] := by
  rw [steps, matchingBlocks_self]
  split
  · next none =>
    subst none
    rfl
  · simp [stepsFrom]

omit [DecidableEq Item] in
theorem splitHunks_kept {limit : Nat} {s : Step} (kept : s.kept = true) (short : s.Short limit) :
    splitHunks limit [] [s] = [] := by
  have size := short kept
  rw [Step.size] at size
  have here : s.isLong limit = false := by
    rw [Step.isLong, kept, Bool.true_and, decide_eq_false_iff_not]
    omega
  rw [splitHunks, here, if_neg Bool.false_ne_true]
  exact if_pos kept

/-- There is nothing to change in a sequence to get itself. -/
theorem hunks_self (limit : Nat) (items : List Item) : hunks limit items items = [] := by
  rw [hunks, steps_self]
  split
  · rfl
  · have short : (((⟨true, 0, items.length, 0, items.length⟩ : Step).lastItems limit).firstItems
        limit).Short limit := fun _ => by
      simp only [Step.size, Step.firstItems, Step.lastItems]
      omega
    exact splitHunks_kept rfl short

end

end OpenDocs.Diff
