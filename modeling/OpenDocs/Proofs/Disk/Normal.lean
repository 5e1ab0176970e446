import OpenDocs.Disk.Basic
import OpenDocs.Proofs.Steps
import Mathlib

/-!
# When a path has a normal form

Every path has one but for two kinds: those that begin with a tilde for which there is no home, and
those with a NUL, which only a text with a NUL can give.
-/

namespace OpenDocs

/-! ### Characters of paths -/

namespace Text

theorem mem_of_mem_cut {α : Type} [DecidableEq α] {mark c : α} {piece cs : List α}
    (listed : piece ∈ cut mark cs) (held : c ∈ piece) : c ∈ cs := by
  induction cs generalizing piece with
  | nil =>
    obtain rfl := List.mem_singleton.mp listed
    exact held
  | cons x cs ih =>
    rw [cut] at listed
    split at listed
    · rcases List.mem_cons.mp listed with rfl | later
      · cases held
      · exact List.mem_cons_of_mem x (ih later held)
    · split at listed
      · next none => exact absurd none (cut_ne_nil mark cs)
      · next first rest pieces =>
        rw [pieces] at ih
        rcases List.mem_cons.mp listed with rfl | later
        · rcases List.mem_cons.mp held with rfl | inside
          · exact List.mem_cons_self
          · exact List.mem_cons_of_mem x (ih List.mem_cons_self inside)
        · exact List.mem_cons_of_mem x (ih (List.mem_cons_of_mem first later) held)

end Text

namespace Disk

theorem Path.hasNul_eq_true_iff {p : Path} :
    p.hasNul = true ↔ ∃ name ∈ p.names, '\x00' ∈ name.toList := by
  simp [hasNul, List.any_eq_true]

theorem Path.hasNul_ofString {s : String} (plain : '\x00' ∉ s.toList) :
    (ofString s).hasNul = false := by
  rw [← Bool.not_eq_true, hasNul_eq_true_iff]
  rintro ⟨name, listed, held⟩
  obtain ⟨piece, cut, rfl⟩ := List.mem_map.mp (List.mem_filter.mp listed).1
  rw [String.toList_ofList] at held
  exact plain (Text.mem_of_mem_cut cut held)

variable {d : Disk} {p q : Path} {f : Fault}

theorem resolve_eq_ok_iff : d.resolve p = .ok q ↔ p.hasNul = false ∧
    q = .ofNames (settle ((if p.isAbsolute then [] else d.working) ++ p.names)) := by
  rw [resolve]
  split
  · next nul => simp [nul]
  · next plain =>
    have free := Bool.eq_false_iff.mpr plain
    rw [Except.ok.injEq]
    exact ⟨fun same => ⟨free, same.symm⟩, fun same => same.2.symm⟩

/-- The homes that a tilde can stand for. -/
def homes (d : Disk) : List Path := d.home :: d.users.map (·.2)

theorem forall_mem_homes {holds : Path → Prop} :
    (∀ home ∈ d.homes, holds home) ↔ holds d.home ∧ ∀ user ∈ d.users, holds user.2 := by
  simp only [homes, List.forall_mem_cons, List.forall_mem_map]

theorem mem_homes_of_homeOf {name : String} {home : Path} (found : d.homeOf name = .ok home) :
    home ∈ d.homes := by
  rw [homeOf] at found
  split at found
  · exact Except.ok.inj found ▸ List.mem_cons_self
  · split at found
    · cases found
    · split at found
      · next user listed =>
        obtain rfl := Except.ok.inj found
        obtain ⟨before, behind, same, _⟩ := List.lookup_eq_some_iff.mp listed
        have held : (name, user) ∈ d.users := same ▸ List.mem_append_right _ List.mem_cons_self
        exact List.mem_cons_of_mem _ (List.mem_map_of_mem held)
      · cases found

theorem homeOf_error {name : String} (refused : d.homeOf name = .error f) :
    f = .noHome ∨ f = .nulInPath ∧ '\x00' ∈ name.toList := by
  rw [homeOf] at refused
  split at refused
  · cases refused
  · split at refused
    · next nul => exact .inr ⟨(Except.error.inj refused).symm, by simpa using nul⟩
    · split at refused
      · cases refused
      · exact .inl (Except.error.inj refused).symm

/-- A user whose home is found has no NUL in the name. -/
theorem notMem_of_homeOf {name : String} {home : Path} (found : d.homeOf name = .ok home) :
    '\x00' ∉ name.toList := by
  rw [homeOf] at found
  split at found
  · next own => subst own; decide
  · split at found
    · cases found
    · next clean => simpa using clean

theorem Path.isTilded_iff : p.isTilded = true ↔
    p.isAbsolute = false ∧ ∃ name rest, p.names = name :: rest ∧
      name.toList.head? = some '~' := by
  rw [isTilded, Bool.and_eq_true, Bool.not_eq_true', Option.any_eq_true]
  cases p.names <;> simp

theorem expandHome_of_not_isTilded (plain : p.isTilded = false) : d.expandHome p = .ok p := by
  rw [expandHome, plain, if_neg Bool.false_ne_true]

theorem expandHome_of_isTilded {name : String} {rest : List String} (tilded : p.isTilded = true)
    (names : p.names = name :: rest) : d.expandHome p = d.homeOf name >>= fun home =>
      if home.isTilded then .error .noHome else .ok (home.join ⟨0, rest⟩) := by
  rw [expandHome, if_pos tilded, names]
  rfl

/-- A path begins at a home that its first name, with a tilde in front, stands for. -/
structure FromHome (d : Disk) (p q : Path) (name : String) (rest : List String) (home : Path) :
    Prop where
  relative : p.isAbsolute = false
  names : p.names = name :: rest
  tilde : name.toList.head? = some '~'
  known : d.homeOf name = .ok home
  plain : home.isTilded = false
  joined : q = home.join ⟨0, rest⟩

/-- A path stays as it is, or begins at a home. -/
theorem expandHome_cases (expanded : d.expandHome p = .ok q) :
    p.isTilded = false ∧ q = p ∨ ∃ name rest home, FromHome d p q name rest home := by
  cases tilded : p.isTilded with
  | false =>
    rw [expandHome_of_not_isTilded tilded] at expanded
    exact .inl ⟨rfl, (Except.ok.inj expanded).symm⟩
  | true =>
    obtain ⟨relative, name, rest, names, tilde⟩ := Path.isTilded_iff.mp tilded
    rw [expandHome_of_isTilded tilded names] at expanded
    obtain ⟨home, known, expanded⟩ := bind_eq_ok_iff.mp expanded
    split at expanded
    · cases expanded
    · next plain =>
      exact .inr ⟨name, rest, home, relative, names, tilde, known, by simpa using plain,
        (Except.ok.inj expanded).symm⟩

theorem expandHome_error (refused : d.expandHome p = .error f) :
    f = .noHome ∨ f = .nulInPath ∧ p.hasNul = true := by
  cases tilded : p.isTilded with
  | false =>
    rw [expandHome_of_not_isTilded tilded] at refused
    cases refused
  | true =>
    obtain ⟨_, name, rest, names, _⟩ := Path.isTilded_iff.mp tilded
    rw [expandHome_of_isTilded tilded names] at refused
    rcases bind_eq_error_iff.mp refused with unknown | ⟨home, _, refused⟩
    · refine (homeOf_error unknown).imp_right fun told => ⟨told.1, ?_⟩
      exact Path.hasNul_eq_true_iff.mpr ⟨name, names ▸ List.mem_cons_self, told.2⟩
    · split at refused
      · exact .inl (Except.error.inj refused).symm
      · cases refused

theorem hasNul_of_expandHome (free : ∀ home ∈ d.homes, home.hasNul = false)
    (expanded : d.expandHome p = .ok q) (nul : q.hasNul = true) : p.hasNul = true := by
  rcases expandHome_cases expanded with ⟨_, rfl⟩ | ⟨name, rest, home, start⟩
  · exact nul
  · rw [start.joined] at nul
    obtain ⟨inner, listed, held⟩ := Path.hasNul_eq_true_iff.mp nul
    rcases List.mem_append.mp listed with before | behind
    · have clean := free home (mem_homes_of_homeOf start.known)
      rw [Path.hasNul_eq_true_iff.mpr ⟨inner, before, held⟩] at clean
      cases clean
    · refine Path.hasNul_eq_true_iff.mpr ⟨inner, ?_, held⟩
      rw [start.names]
      exact List.mem_cons_of_mem name behind

theorem normalize_eq_ok_iff :
    d.normalize p = .ok q ↔ ∃ r, d.expandHome p = .ok r ∧ d.resolve r = .ok q :=
  bind_eq_ok_iff

/-- A path has a normal form unless its home is unknown or it has a NUL. -/
theorem normalize_error (refused : d.normalize p = .error f) :
    f = .noHome ∨
      f = .nulInPath ∧ ((∀ home ∈ d.homes, home.hasNul = false) → p.hasNul = true) := by
  rw [normalize] at refused
  cases expanded : d.expandHome p with
  | error g =>
    rw [expanded] at refused
    obtain rfl := Except.error.inj refused
    exact (expandHome_error expanded).imp_right fun told => ⟨told.1, fun _ => told.2⟩
  | ok r =>
    rw [expanded] at refused
    change d.resolve r = .error f at refused
    rw [resolve] at refused
    split at refused
    · next nul =>
      obtain rfl := Except.error.inj refused
      exact .inr ⟨rfl, fun free => hasNul_of_expandHome free expanded nul⟩
    · cases refused

end Disk

end OpenDocs
