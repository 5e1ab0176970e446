import OpenDocs.Proofs.Disk.Normal
import Mathlib

/-!
# The place that a path leads to

On a disk where every entry stands in a directory, a path that leads to an entry and its normal form
lead to the same one, however many steps up the path has.
-/

namespace OpenDocs

namespace Disk

/-- Every entry stands in a directory, and all names are such as a file can have. -/
structure Sound (d : Disk) : Prop where
  inside : ∀ e ∈ d.entries, d.lookup e.1.dropLast = some .directory
  named : ∀ e ∈ d.entries, ∀ name ∈ e.1,
    name ≠ ".." ∧ isTooLong name = false ∧ '\x00' ∉ name.toList

variable {d : Disk} {here at_ names : List String} {e : Entry} {p q : Path}

theorem exists_entry (found : d.lookup at_ = some e) (below : at_ ≠ []) : (at_, e) ∈ d.entries := by
  rw [lookup, if_neg (by simpa using below)] at found
  obtain ⟨before, behind, same, _⟩ := List.lookup_eq_some_iff.mp found
  rw [same]
  exact List.mem_append_right _ List.mem_cons_self

theorem Sound.name_of_mem (sound : d.Sound) (found : d.lookup at_ = some e) {name : String}
    (listed : name ∈ at_) : name ≠ ".." ∧ isTooLong name = false ∧ '\x00' ∉ name.toList :=
  sound.named _ (exists_entry found (List.ne_nil_of_mem listed)) name listed

theorem Sound.lookup_dropLast (sound : d.Sound) {name : String}
    (found : d.lookup (at_ ++ [name]) = some e) : d.lookup at_ = some .directory := by
  have around := sound.inside _ (exists_entry found (by simp))
  rwa [List.dropLast_concat] at around

/-! ### Walking along names -/

theorem walk_append (d : Disk) (here xs ys : List String) :
    d.walk here (xs ++ ys) = d.walk here xs >>= (d.walk · ys) := by
  induction xs generalizing here with
  | nil => rfl
  | cons x xs ih =>
    simp only [List.cons_append, walk]
    cases d.lookup here with
    | none => rfl
    | some e =>
      cases e with
      | file bytes => rfl
      | directory =>
        simp only
        split
        · exact ih _
        · split
          · rfl
          · exact ih _

theorem walk_one {name : String} (found : d.lookup here = some .directory) (plain : name ≠ "..")
    (short : isTooLong name = false) : d.walk here [name] = .ok (here ++ [name]) := by
  simp [walk, found, plain, short]

/-- A step up takes back the name before it, as in a normal form. -/
def follow (here names : List String) : List String :=
  names.foldl (fun done name => if name = ".." then done.dropLast else done ++ [name]) here

theorem settle_append (xs ys : List String) : settle (xs ++ ys) = follow (settle xs) ys :=
  List.foldl_append

theorem follow_cons (here : List String) (name : String) (names : List String) :
    follow here (name :: names) =
      follow (if name = ".." then here.dropLast else here ++ [name]) names := rfl

theorem walk_eq_follow (walked : d.walk here names = .ok at_) : at_ = follow here names := by
  induction names generalizing here with
  | nil => exact (Except.ok.inj walked).symm
  | cons name rest ih =>
    rw [walk] at walked
    rw [follow_cons]
    split at walked
    · cases walked
    · cases walked
    · split at walked
      · next up => rw [if_pos up]; exact ih walked
      · next down =>
        split at walked
        · cases walked
        · rw [if_neg down]; exact ih walked

/-- Where a walk leads to an entry, it began at one. -/
theorem exists_of_walk (walked : d.walk here names = .ok at_) (found : d.lookup at_ = some e) :
    ∃ e, d.lookup here = some e := by
  cases names with
  | nil =>
    obtain rfl := Except.ok.inj walked
    exact ⟨e, found⟩
  | cons name rest =>
    cases held : d.lookup here with
    | some e => exact ⟨e, rfl⟩
    | none =>
      rw [walk, held] at walked
      cases walked

theorem Sound.settle_eq (sound : d.Sound) (found : d.lookup at_ = some e) : settle at_ = at_ := by
  induction at_ using List.reverseRecOn generalizing e with
  | nil => rfl
  | append_singleton init last ih =>
    have plain := (sound.name_of_mem found (List.mem_append_right init List.mem_cons_self)).1
    rw [settle_append, ih (sound.lookup_dropLast found), follow_cons, if_neg plain]
    rfl

/-- The names of an entry lead to it from the outermost directory. -/
theorem Sound.walk_self (sound : d.Sound) (found : d.lookup at_ = some e) :
    d.walk [] at_ = .ok at_ := by
  induction at_ using List.reverseRecOn generalizing e with
  | nil => rfl
  | append_singleton init last ih =>
    have around := sound.lookup_dropLast found
    obtain ⟨plain, short, _⟩ :=
      sound.name_of_mem found (List.mem_append_right init List.mem_cons_self)
    rw [walk_append, ih around]
    exact walk_one around plain short

theorem Sound.settle_of_walk (sound : d.Sound) (walked : d.walk here names = .ok at_)
    (found : d.lookup at_ = some e) : settle (here ++ names) = at_ := by
  obtain ⟨start, held⟩ := exists_of_walk walked found
  rw [settle_append, sound.settle_eq held, walk_eq_follow walked]

/-! ### Locating paths -/

theorem locate_eq_ok_iff : d.locate p = .ok at_ ↔
    p.hasNul = false ∧ Encoding.Utf8.size p.text < 4096 ∧
      d.walk (if p.isAbsolute then [] else d.working) p.names = .ok at_ := by
  rw [locate]
  split
  · next nul => simp [nul]
  · next plain =>
    split
    · next long => simp [Nat.not_lt_of_le long]
    · next short =>
      have within := Nat.lt_of_not_le short
      cases d.walk (if p.isAbsolute then [] else d.working) p.names <;>
        simp [plain, within, Except.mapError]

/-- The place that a path names, whether it can be reached or not. -/
def placeOf (d : Disk) (p : Path) : List String :=
  follow (if p.isAbsolute then [] else d.working) p.names

theorem placeOf_concat {name : String} (plain : name ≠ "..") :
    d.placeOf (p.join ⟨0, [name]⟩) = d.placeOf p ++ [name] := by
  change follow _ (p.names ++ [name]) = follow _ p.names ++ [name]
  rw [follow, List.foldl_concat, if_neg plain]
  rfl

theorem locate_eq_placeOf (located : d.locate p = .ok at_) : at_ = d.placeOf p :=
  walk_eq_follow (locate_eq_ok_iff.mp located).2.2

/-- A path that leads to no entry is told, unless it has a NUL. -/
theorem find_error {f : Fault} (refused : d.find p = .error f) :
    f = .nulInPath ∧ p.hasNul = true ∨ ∃ flaw text, f = .access flaw text := by
  rcases bind_eq_error_iff.mp refused with unlocated | ⟨at_, _, refused⟩
  · rw [locate] at unlocated
    split at unlocated
    · next nul => exact .inl ⟨(Except.error.inj unlocated).symm, nul⟩
    · split at unlocated
      · exact .inr ⟨_, _, (Except.error.inj unlocated).symm⟩
      · cases walked : d.walk (if p.isAbsolute then [] else d.working) p.names with
        | error flaw =>
          rw [walked] at unlocated
          exact .inr ⟨flaw, p.text, (Except.error.inj unlocated).symm⟩
        | ok at_ =>
          rw [walked] at unlocated
          cases unlocated
  · split at refused
    · cases refused
    · exact .inr ⟨_, _, (Except.error.inj refused).symm⟩

theorem readBytes_eq_ok_iff {bytes : List UInt8} : d.readBytes p = .ok bytes ↔
    ∃ at_, d.locate p = .ok at_ ∧ d.lookup at_ = some (.file bytes) ∧ at_ ∉ d.sealed := by
  rw [readBytes, find, isSealed]
  cases d.locate p with
  | error f => simp [bind, Except.bind]
  | ok at_ =>
    cases held : d.lookup at_ with
    | none => simp [bind, Except.bind, held, throw, throwThe, MonadExceptOf.throw]
    | some e =>
      cases e with
      | directory =>
        simp [bind, Except.bind, held, pure, Except.pure, throw, throwThe, MonadExceptOf.throw]
      | file content =>
        by_cases shut : at_ ∈ d.sealed <;>
          simp [bind, Except.bind, held, shut, pure, Except.pure, throw, throwThe,
            MonadExceptOf.throw]

theorem readText_eq_ok_iff {text : List Char} {policy : String} :
    d.readText p none policy = .ok text ↔
      ∃ bytes, d.readBytes p = .ok bytes ∧ Encoding.textOf bytes none policy = .ok text := by
  rw [readText, bind_eq_ok_iff]
  simp only [mapError_eq_ok_iff]

theorem exists_resolve {bytes : List UInt8} (read : d.readBytes p = .ok bytes) :
    ∃ q, d.resolve p = .ok q := by
  obtain ⟨at_, located, _, _⟩ := readBytes_eq_ok_iff.mp read
  exact ⟨_, resolve_eq_ok_iff.mpr ⟨(locate_eq_ok_iff.mp located).1, rfl⟩⟩

/-- A file that can be read by a path stands at the place that the normal form names, and can be
read by that form too if it is not too long to be looked up. -/
theorem Sound.readBytes_resolve (sound : d.Sound) {bytes : List UInt8}
    (read : d.readBytes p = .ok bytes) (resolved : d.resolve p = .ok q) :
    d.lookup q.names = some (.file bytes) ∧
      (Encoding.Utf8.size q.text < 4096 → d.readBytes q = .ok bytes) := by
  obtain ⟨at_, located, found, free⟩ := readBytes_eq_ok_iff.mp read
  obtain ⟨_, _, walked⟩ := locate_eq_ok_iff.mp located
  obtain ⟨_, rfl⟩ := resolve_eq_ok_iff.mp resolved
  have place := sound.settle_of_walk walked found
  rw [place]
  refine ⟨found, fun short => readBytes_eq_ok_iff.mpr ⟨at_, ?_, found, free⟩⟩
  refine locate_eq_ok_iff.mpr ⟨?_, short, ?_⟩
  · rw [← Bool.not_eq_true, Path.hasNul_eq_true_iff]
    rintro ⟨name, listed, nul⟩
    exact (sound.name_of_mem found listed).2.2 nul
  · exact sound.walk_self found

end Disk

end OpenDocs
