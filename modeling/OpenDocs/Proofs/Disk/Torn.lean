import OpenDocs.Disk.Torn
import OpenDocs.Proofs.Disk.Normal

/-!
# When a torn path has a normal form

A torn path has a normal form unless its home is unknown, it has a NUL, or one of its surrogates
stands for no byte of a name. A path that is not torn is not touched by the last.
-/

namespace OpenDocs.Disk

open Text (Point)

/-- Points with which asking for a path fails, and how. -/
def Spoils (ps : List Point) (f : Fault) : Prop :=
  f = .encoding .surrogate ∧ (∃ p ∈ ps, isLost p = true) ∨ f = .nulInPath ∧ .char '\x00' ∈ ps

variable {d : Disk} {ps qs name : List Point} {f : Fault}

theorem Spoils.of_subset (spoils : Spoils ps f) (inside : ∀ p ∈ ps, p ∈ qs) : Spoils qs f := by
  rcases spoils with ⟨rfl, p, held, lost⟩ | ⟨rfl, nul⟩
  · exact .inl ⟨rfl, p, inside p held, lost⟩
  · exact .inr ⟨rfl, inside _ nul⟩

theorem spoils_of_nameFault? (found : nameFault? name = some f) : Spoils name f := by
  rw [nameFault?] at found
  split at found
  · next lost => exact .inl ⟨(Option.some.inj found).symm, by simpa using lost⟩
  · split at found
    · next nul => exact .inr ⟨(Option.some.inj found).symm, by simpa using nul⟩
    · cases found

theorem char_mem_points {c : Char} {s : String} : .char c ∈ Text.points s ↔ c ∈ s.toList := by
  simp [Text.points, Text.pointsOf]

/-- A name that is not torn has nothing but a NUL to fail on. -/
theorem nameFault?_points {s : String} (plain : '\x00' ∉ s.toList) :
    nameFault? (Text.points s) = none := by
  have kept : (Text.points s).any isLost = false := by
    simp [Text.points, Text.pointsOf, isLost]
  have clean : (Text.points s).contains (.char '\x00') = false := by
    simpa [char_mem_points] using plain
  rw [nameFault?, kept, clean]
  rfl

theorem resolvePoints_error {isAbsolute : Bool} {names : List (List Point)}
    (refused : d.resolvePoints isAbsolute names = .error f) :
    ∃ name ∈ names, Spoils name f ∧ nameFault? name = some f := by
  rw [resolvePoints] at refused
  split at refused
  · next g found =>
    obtain rfl := Except.error.inj refused
    obtain ⟨name, listed, fails⟩ := List.exists_of_findSome?_eq_some found
    exact ⟨name, listed, spoils_of_nameFault? fails, fails⟩
  · cases refused

theorem homeOfPoints_error (refused : d.homeOfPoints name = .error f) :
    f = .noHome ∨ Spoils name f := by
  rw [homeOfPoints] at refused
  split at refused
  · next s whole =>
    obtain rfl := Text.whole?_eq_some_iff.mp whole
    rcases homeOf_error refused with unknown | ⟨nul, held⟩
    · exact .inl unknown
    · exact .inr (.inr ⟨nul, char_mem_points.mpr held⟩)
  · cases fails : nameFault? name with
    | none =>
      rw [fails] at refused
      exact .inl (Except.error.inj refused).symm
    | some g =>
      rw [fails] at refused
      obtain rfl := Except.error.inj refused
      exact .inr (spoils_of_nameFault? fails)

theorem homeOfPoints_mem_homes {home : Path} (found : d.homeOfPoints name = .ok home) :
    home ∈ d.homes := by
  rw [homeOfPoints] at found
  split at found
  · exact mem_homes_of_homeOf found
  · cases found

/-- Asking for a text fails because its home is unknown or because of something in it, unless it is
in a home. -/
def Refuses (d : Disk) (ps : List Point) (f : Fault) : Prop :=
  f = .noHome ∨ (f = .nulInPath ∨ f = .encoding .surrogate) ∧
    ((∀ home ∈ d.homes, home.hasNul = false) → Spoils ps f)

theorem Spoils.refuses (spoils : Spoils ps f) : d.Refuses ps f :=
  .inr ⟨spoils.symm.imp And.left And.left, fun _ => spoils⟩

theorem normalizeTorn_error (refused : d.normalizeTorn ps = .error f) : d.Refuses ps f := by
  have inside {name : List Point} (listed : name ∈ (Text.cut (.char '/') ps).filter fun name =>
      name != [] && name != Text.points ".") : ∀ p ∈ name, p ∈ ps :=
    fun p held => Text.mem_of_mem_cut (List.mem_of_mem_filter listed) held
  rw [normalizeTorn] at refused
  generalize (Text.cut (.char '/') ps).filter (fun name =>
    name != [] && name != Text.points ".") = names at refused inside
  split at refused
  · have first : ∀ p ∈ names.headD [], p ∈ ps := by
      cases names with
      | nil => simp
      | cons name rest => exact inside List.mem_cons_self
    rcases bind_eq_error_iff.mp refused with unknown | ⟨home, known, refused⟩
    · rcases homeOfPoints_error unknown with rfl | spoils
      · exact .inl rfl
      · exact (spoils.of_subset first).refuses
    · split at refused
      · exact .inl (Except.error.inj refused).symm
      · obtain ⟨name, listed, spoils, fails⟩ := resolvePoints_error refused
        rcases List.mem_append.mp listed with before | behind
        · obtain ⟨s, held, rfl⟩ := List.mem_map.mp before
          refine .inr ⟨spoils.symm.imp And.left And.left, fun free => ?_⟩
          have plain : '\x00' ∉ s.toList := by
            intro nul
            have clean := free home (homeOfPoints_mem_homes known)
            rw [Path.hasNul_eq_true_iff.mpr ⟨s, held, nul⟩] at clean
            cases clean
          rw [nameFault?_points plain] at fails
          cases fails
        · exact (spoils.of_subset (inside (List.mem_of_mem_tail behind))).refuses
  · obtain ⟨name, listed, spoils, _⟩ := resolvePoints_error refused
    exact (spoils.of_subset (inside listed)).refuses

theorem normalizePoints_points (s : String) :
    d.normalizePoints (Text.points s) = (d.normalize (.ofString s)).map some := by
  rw [normalizePoints, Text.whole?_points]

theorem normalizePoints_error (refused : d.normalizePoints ps = .error f) : d.Refuses ps f := by
  rw [normalizePoints] at refused
  split at refused
  · next s whole =>
    obtain rfl := Text.whole?_eq_some_iff.mp whole
    cases normal : d.normalize (.ofString s) with
    | ok q =>
      rw [normal] at refused
      cases refused
    | error g =>
      rw [normal] at refused
      obtain rfl := Except.error.inj refused
      refine (normalize_error normal).imp_right fun ⟨nul, fails⟩ => ⟨.inl nul, fun free => ?_⟩
      refine .inr ⟨nul, char_mem_points.mpr ?_⟩
      by_contra plain
      have clean := Path.hasNul_ofString plain
      rw [fails free] at clean
      cases clean
  · exact normalizeTorn_error refused

end OpenDocs.Disk
