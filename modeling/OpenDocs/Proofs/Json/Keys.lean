import OpenDocs.Json.Reader
import OpenDocs.Proofs.Disk.Normal

/-!
# The keys of a record that is read

Of a repeated key the last value counts, at the place of the first, so a record has each key once.
-/

namespace OpenDocs.Json

section

variable {κ : Type} [DecidableEq κ] {key : κ} {v : Json} {fields : List (κ × Json)}

theorem mem_keys_put {k : κ} :
    k ∈ (put key v fields).map (·.1) ↔ k = key ∨ k ∈ fields.map (·.1) := by
  induction fields with
  | nil => simp [put]
  | cons f rest ih =>
    rw [put]
    split
    · next same => simp [same]
    · rw [List.map_cons, List.mem_cons, ih, List.map_cons, List.mem_cons, or_left_comm]

theorem nodup_keys_put (distinct : (fields.map (·.1)).Nodup) :
    ((put key v fields).map (·.1)).Nodup := by
  induction fields with
  | nil => simp [put]
  | cons f rest ih =>
    rw [List.map_cons, List.nodup_cons] at distinct
    rw [put]
    split
    · next same => rwa [List.map_cons, List.nodup_cons, ← same]
    · next other =>
      rw [List.map_cons, List.nodup_cons, mem_keys_put, not_or]
      exact ⟨⟨other, distinct.1⟩, ih distinct.2⟩

end

/-! ### Fields by name -/

section

variable {fields : List (List Text.Point × Json)}

theorem namedOnly_of_named? {named : List (String × Json)} (whole : named? fields = some named) :
    namedOnly fields = named := by
  induction fields generalizing named with
  | nil =>
    cases whole
    rfl
  | cons e rest ih =>
    rw [named?] at whole
    split at whole
    · next name others first behind =>
      obtain rfl := Option.some.inj whole
      have told := ih behind
      simp only [namedOnly, List.filterMap_cons, first, Option.map_some] at told ⊢
      rw [told]
    · cases whole

theorem fields?_ofFields (fields : List (List Text.Point × Json)) :
    (ofFields fields).fields? = some (namedOnly fields) := by
  rw [ofFields]
  split
  · next whole => rw [fields?, namedOnly_of_named? whole]
  · rw [fields?, List.zip_map', List.map_id']

theorem nodup_namedOnly (distinct : (fields.map (·.1)).Nodup) :
    ((namedOnly fields).map (·.1)).Nodup := by
  rw [List.Nodup, List.pairwise_map] at distinct
  rw [List.Nodup, List.pairwise_map, namedOnly, List.pairwise_filterMap]
  refine distinct.imp fun {a b} apart c first e second => ?_
  obtain ⟨s, whole, rfl⟩ := Option.map_eq_some_iff.mp first
  obtain ⟨t, whole', rfl⟩ := Option.map_eq_some_iff.mp second
  rintro rfl
  rw [Text.whole?_eq_some_iff] at whole whole'
  exact apart (whole.trans whole'.symm)

end

/-! ### Reading -/

section

variable {v : Json} {done : List (List Text.Point × Json)} {cs : List Char}
  {n fuel room : Nat} {r : Rest}

/-- A value is no record, or its fields have distinct names. -/
def OnceNamed (v : Json) : Prop := ∀ fields, v.fields? = some fields → (fields.map (·.1)).Nodup

theorem onceNamed_of_none (none_ : v.fields? = none) : OnceNamed v := by
  intro fields held
  rw [none_] at held
  cases held

theorem onceNamed_ofFields (distinct : (done.map (·.1)).Nodup) : OnceNamed (ofFields done) := by
  intro fields held
  rw [fields?_ofFields] at held
  obtain rfl := Option.some.inj held
  exact nodup_namedOnly distinct

theorem onceNamed_of_readFields (distinct : (done.map (·.1)).Nodup)
    (read : readFields fuel room cs n done = .ok (v, r)) : OnceNamed v := by
  induction fuel generalizing cs n done with
  | zero =>
    rw [readFields] at read
    cases read
  | succ fuel ih =>
    unfold readFields at read
    split at read
    · obtain ⟨⟨key, behind⟩, _, read⟩ := bind_eq_ok_iff.mp read
      dsimp only at read
      split at read
      · obtain ⟨⟨value, behind⟩, _, read⟩ := bind_eq_ok_iff.mp read
        dsimp only at read
        split at read
        · obtain ⟨rfl, _⟩ := Prod.mk.inj (Except.ok.inj read)
          exact onceNamed_ofFields (nodup_keys_put distinct)
        · exact ih (nodup_keys_put distinct) read
        · cases read
      · cases read
    · cases read

theorem onceNamed_of_readItems {items : List Json}
    (read : readItems fuel room cs n items = .ok (v, r)) : OnceNamed v := by
  induction fuel generalizing cs n items with
  | zero =>
    rw [readItems] at read
    cases read
  | succ fuel ih =>
    rw [readItems] at read
    obtain ⟨⟨value, behind⟩, _, read⟩ := bind_eq_ok_iff.mp read
    dsimp only at read
    split at read
    · obtain ⟨rfl, _⟩ := Prod.mk.inj (Except.ok.inj read)
      exact onceNamed_of_none rfl
    · exact ih read
    · cases read

theorem onceNamed_of_readNumber {negative : Bool} (read : readNumber negative n cs = .ok (v, r)) :
    OnceNamed v := by
  refine onceNamed_of_none ?_
  simp only [readNumber] at read
  repeat' split at read
  all_goals cases read <;> rfl

theorem onceNamed_of_readAtom (read : readAtom cs n = .ok (v, r)) : OnceNamed v := by
  unfold readAtom at read
  split at read
  · next w value found =>
    obtain ⟨rfl, _⟩ := Prod.mk.inj (Except.ok.inj read)
    have listed := List.mem_of_find?_eq_some found
    have none_ : ∀ e ∈ words, e.2.fields? = none := by simp [words, fields?]
    exact onceNamed_of_none (none_ _ listed)
  · split at read
    · exact onceNamed_of_readNumber read
    · exact onceNamed_of_readNumber read

theorem fields?_ofPoints (ps : List Text.Point) : (ofPoints ps).fields? = none := by
  rw [ofPoints]
  split <;> rfl

theorem onceNamed_of_readValue (read : readValue fuel room cs n = .ok (v, r)) : OnceNamed v := by
  cases fuel with
  | zero =>
    rw [readValue] at read
    cases read
  | succ fuel =>
    unfold readValue at read
    split at read
    · next rest =>
      cases spelled : readString n rest (n + 1) [] with
      | error fault =>
        rw [spelled] at read
        cases read
      | ok found =>
        rw [spelled] at read
        obtain ⟨rfl, _⟩ := Prod.mk.inj (Except.ok.inj read)
        exact onceNamed_of_none (fields?_ofPoints _)
    · split at read
      · cases read
      · dsimp only at read
        split at read
        · cases read
          exact onceNamed_of_none rfl
        · exact onceNamed_of_readItems read
    · split at read
      · cases read
      · dsimp only at read
        split at read
        · cases read
          rintro fields held
          cases held
          exact List.nodup_nil
        · have none_ : (([] : List (List Text.Point × Json)).map (·.1)).Nodup := List.nodup_nil
          exact onceNamed_of_readFields none_ read
    · exact onceNamed_of_readAtom read

theorem nodup_keys_of_readWithin {s : String} {fields : List (String × Json)}
    (told : readWithin room s = .ok v) (held : v.fields? = some fields) :
    (fields.map (·.1)).Nodup := by
  rw [readWithin] at told
  split at told
  · cases told
  · obtain ⟨⟨v, behind⟩, value, told⟩ := bind_eq_ok_iff.mp told
    dsimp only at told
    split at told
    · obtain rfl := Except.ok.inj told
      exact onceNamed_of_readValue value fields held
    · cases told

end

end OpenDocs.Json
