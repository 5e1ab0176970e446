import OpenDocs.Disk.Access
import OpenDocs.Proofs.Encoding.Streams
import OpenDocs.Proofs.Disk.Places
import OpenDocs.Proofs.Number.Spare

/-!
# What writing a file leaves alone

A file is written under a name that is free, and only then takes the place of its target. So if the
writing fails, every file is as it was, and otherwise every file but the target.
-/

namespace OpenDocs.Disk

theorem run_liftExcept {α : Type} (d : Disk) (x : Except Fault α) :
    (liftExcept x).run.run d = (x, d) := by
  cases x <;> rfl

theorem run_makeDirectories (d : Disk) (p : Path) :
    (makeDirectories p).run.run d = d.ensureDirectories p.slashes p.names := rfl

variable {d d' d'' : Disk} {p : Path} {at_ temporary : List String} {e : Entry} {f : Fault}

/-! ### Disks that differ at one place -/

structure AgreesOff (at_ : List String) (d d' : Disk) : Prop where
  lookup : ∀ other, other ≠ at_ → d'.lookup other = d.lookup other
  shut : ∀ other, other ≠ at_ → (other ∈ d'.sealed ↔ other ∈ d.sealed)
  working : d'.working = d.working

theorem mem_sealed_remove {other : List String} :
    other ∈ (d.remove at_).sealed ↔ other ∈ d.sealed ∧ other ≠ at_ := by
  simp [remove]

theorem mem_sealed_put {other : List String} :
    other ∈ (d.put at_ e).sealed ↔ other ∈ d.sealed ∧ other ≠ at_ :=
  mem_sealed_remove

theorem agreesOff_put (d : Disk) (at_ : List String) (e : Entry) : AgreesOff at_ d (d.put at_ e) :=
  ⟨fun other apart => by rw [lookup_put, if_neg fun same => apart same.1],
    fun other apart => mem_sealed_put.trans (and_iff_left apart), rfl⟩

theorem agreesOff_remove (d : Disk) (at_ : List String) : AgreesOff at_ d (d.remove at_) :=
  ⟨fun other apart => by rw [lookup_remove, if_neg fun same => apart same.1],
    fun other apart => mem_sealed_remove.trans (and_iff_left apart), rfl⟩

theorem AgreesOff.trans (first : AgreesOff at_ d d') (second : AgreesOff at_ d' d'') :
    AgreesOff at_ d d'' :=
  ⟨fun other apart => (second.lookup other apart).trans (first.lookup other apart),
    fun other apart => (second.shut other apart).trans (first.shut other apart),
    second.working.trans first.working⟩

/-! ### Disks with the same files -/

/-- The same files hold the same bytes and may be opened as before, and no directory is gone. -/
structure KeepsFiles (d d' : Disk) : Prop where
  files : ∀ at_ bytes, d'.lookup at_ = some (.file bytes) ↔ d.lookup at_ = some (.file bytes)
  shut : ∀ at_ bytes, d.lookup at_ = some (.file bytes) → (at_ ∈ d'.sealed ↔ at_ ∈ d.sealed)
  directories : ∀ at_, d.lookup at_ = some .directory → d'.lookup at_ = some .directory
  working : d'.working = d.working

theorem KeepsFiles.refl (d : Disk) : KeepsFiles d d :=
  ⟨fun _ _ => Iff.rfl, fun _ _ _ => Iff.rfl, fun _ => id, rfl⟩

theorem KeepsFiles.trans (first : KeepsFiles d d') (second : KeepsFiles d' d'') :
    KeepsFiles d d'' where
  files at_ bytes := (second.files at_ bytes).trans (first.files at_ bytes)
  shut at_ bytes held :=
    (second.shut at_ bytes ((first.files at_ bytes).mpr held)).trans (first.shut at_ bytes held)
  directories at_ held := second.directories at_ (first.directories at_ held)
  working := second.working.trans first.working

/-- At the place where the disks differ there is no file in either. -/
theorem AgreesOff.keepsFiles (agrees : AgreesOff at_ d d') (free : d.lookup at_ = none)
    (noFile : ∀ bytes, d'.lookup at_ ≠ some (.file bytes)) : KeepsFiles d d' := by
  refine ⟨fun other bytes => ?_, fun other bytes held => ?_, fun other held => ?_, agrees.working⟩
  · by_cases same : other = at_
    · subst same
      simp [free, noFile bytes]
    · rw [agrees.lookup other same]
  · have apart : other ≠ at_ := by
      rintro rfl
      cases free.symm.trans held
    exact agrees.shut other apart
  · have apart : other ≠ at_ := by
      rintro rfl
      cases free.symm.trans held
    rw [agrees.lookup other apart, held]

theorem lookup_put_self (d : Disk) (inside : at_ ≠ []) (e : Entry) :
    (d.put at_ e).lookup at_ = some e := by
  rw [lookup_put, if_pos ⟨rfl, inside⟩]

theorem ne_nil_of_lookup (noDirectory : d.lookup at_ ≠ some .directory) : at_ ≠ [] := by
  rintro rfl
  exact noDirectory rfl

theorem ne_nil_of_free (free : d.lookup at_ = none) : at_ ≠ [] := by
  rintro rfl
  cases free

/-! ### Making directories -/

theorem makeDirectory_keeps (made : d.makeDirectory p = .ok d') : KeepsFiles d d' := by
  rw [makeDirectory] at made
  obtain ⟨at_, _, made⟩ := bind_eq_ok_iff.mp made
  split at made
  · cases made
  · next free =>
    obtain rfl := Except.ok.inj made
    refine (agreesOff_put d at_ .directory).keepsFiles free fun bytes => ?_
    simp [lookup_put_self d (ne_nil_of_free free)]

theorem ensureDirectory_keeps (made : d.ensureDirectory p = .ok d') : KeepsFiles d d' := by
  rw [ensureDirectory] at made
  split at made
  · next made' =>
    obtain rfl := Except.ok.inj made
    exact makeDirectory_keeps made'
  · cases made
  · split at made
    · obtain rfl := Except.ok.inj made
      exact .refl d
    · cases made

/-- What each directory around keeps, all of them keep. -/
theorem ensureDirectories_lift {keeps : Disk → Disk → Prop} (refl : ∀ d, keeps d d)
    (trans : ∀ {d d' d''}, keeps d d' → keeps d' d'' → keeps d d'') (d : Disk) (slashes : Nat)
    (names : List String)
    (one : ∀ {d d' around}, around <+: names → d.ensureDirectory ⟨slashes, around⟩ = .ok d' →
      keeps d d') :
    keeps d (d.ensureDirectories slashes names).2 := by
  fun_induction ensureDirectories d slashes names with
  | case1 names made ensured => exact one List.prefix_rfl ensured
  | case2 path name rest f made around missing ih =>
    rw [around] at ih
    exact ih fun shorter => one (shorter.trans (List.dropLast_prefix _))
  | case3 path name rest outer around made ensured missing ih =>
    rw [around] at ih
    rw [ensured]
    have before := ih fun shorter => one (shorter.trans (List.dropLast_prefix _))
    exact trans before (one List.prefix_rfl ensured)
  | case4 path name rest outer around f refused missing ih =>
    rw [around] at ih
    rw [refused]
    exact ih fun shorter => one (shorter.trans (List.dropLast_prefix _))
  | case5 names f other refused => exact refl d

theorem ensureDirectories_keeps (d : Disk) (slashes : Nat) (names : List String) :
    KeepsFiles d (d.ensureDirectories slashes names).2 :=
  ensureDirectories_lift .refl .trans d slashes names fun _ => ensureDirectory_keeps

/-! ### Writing and moving -/

theorem temporaryName_eq (name : String) (n : Nat) :
    temporaryName name n = "." ++ name ++ "." ++ tagText n ++ ".tmp" := by
  rw [temporaryName]
  generalize tagText n = tag
  rfl

theorem temporaryName_inj {name : String} {m n : Nat}
    (same : temporaryName name m = temporaryName name n) : m = n := by
  apply @padded_inj 8
  change tagText m = tagText n
  rw [temporaryName_eq, temporaryName_eq] at same
  have read := congrArg String.toList same
  simp only [String.toList_append] at read
  exact String.toList_inj.mp (List.append_cancel_left (List.append_cancel_right read))

theorem temporaryName_ne_stepUp (name : String) (n : Nat) : temporaryName name n ≠ ".." := by
  intro same
  have last := congrArg (fun s => s.toList.getLast?) same
  simp only [temporaryName_eq, String.toList_append, List.getLast?_append] at last
  rw [show ".tmp".toList.getLast? = some 'p' from rfl, Option.some_or] at last
  exact absurd last (by decide)

theorem lookup_eq_none (inside : at_ ≠ []) (free : at_ ∉ d.entries.map (·.1)) :
    d.lookup at_ = none := by
  rw [lookup, if_neg (by simpa using inside), List.lookup_eq_none_iff]
  intro e held
  rw [bne_iff_ne]
  rintro rfl
  exact free (List.mem_map_of_mem held)

theorem lookup_temporary (d : Disk) (directory : List String) (name : String) :
    d.lookup (directory ++ [temporaryName name (d.freeTag directory name)]) = none := by
  have apart (m n : Nat) (same : directory ++ [temporaryName name m] =
      directory ++ [temporaryName name n]) : m = n :=
    temporaryName_inj (List.singleton_inj.mp (List.append_cancel_left same))
  have fewer : (d.entries.map (·.1)).length < d.entries.length + 1 := by
    rw [List.length_map]
    omega
  obtain ⟨n, listed, free⟩ := exists_spare _ apart fewer
  have unused := lookup_eq_none (by simp) free
  rw [freeTag]
  cases found : (List.range (d.entries.length + 1)).find? fun n =>
      (d.lookup (directory ++ [temporaryName name n])).isNone with
  | none =>
    have taken := List.find?_eq_none.mp found n listed
    rw [unused] at taken
    exact absurd rfl taken
  | some tag => simpa using List.find?_some found

/-- The same walk is open as long as no directory is gone. -/
theorem walk_of_directories {here names : List String}
    (kept : ∀ at_, d.lookup at_ = some .directory → d'.lookup at_ = some .directory)
    (walked : d.walk here names = .ok at_) : d'.walk here names = .ok at_ := by
  induction names generalizing here with
  | nil => exact walked
  | cons name rest ih =>
    rw [walk] at walked ⊢
    split at walked
    · cases walked
    · cases walked
    · next held =>
      rw [kept here held]
      simp only
      split at walked
      · next up =>
        rw [if_pos up]
        exact ih walked
      · next down =>
        rw [if_neg down]
        split at walked
        · cases walked
        · next short =>
          rw [if_neg short]
          exact ih walked

theorem locate_of_directories
    (kept : ∀ at_, d.lookup at_ = some .directory → d'.lookup at_ = some .directory)
    (working : d'.working = d.working) (located : d.locate p = .ok at_) :
    d'.locate p = .ok at_ := by
  obtain ⟨plain, short, walked⟩ := locate_eq_ok_iff.mp located
  rw [← working] at walked
  exact locate_eq_ok_iff.mpr ⟨plain, short, walk_of_directories kept walked⟩

theorem moveTarget_eq_ok (target : d.moveTarget p = .ok at_) :
    d.locate p = .ok at_ ∧ d.lookup at_ ≠ some .directory := by
  rw [moveTarget] at target
  obtain ⟨place, located, target⟩ := bind_eq_ok_iff.mp target
  split at target
  · cases target
  · cases target
  · split at target
    · cases target
    · next other =>
      obtain rfl := Except.ok.inj target
      exact ⟨located, other⟩

/-- A file has new bytes and may be opened, all others are as they were, and no directory is
gone. -/
structure Replaces (at_ : List String) (bytes : List UInt8) (d d' : Disk) : Prop where
  file : d'.lookup at_ = some (.file bytes)
  free : at_ ∉ d'.sealed
  others : ∀ other, other ≠ at_ → ∀ content,
    d'.lookup other = some (.file content) ↔ d.lookup other = some (.file content)
  shut : ∀ other, other ≠ at_ → ∀ content, d.lookup other = some (.file content) →
    (other ∈ d'.sealed ↔ other ∈ d.sealed)
  directories : ∀ at_, d.lookup at_ = some .directory → d'.lookup at_ = some .directory
  working : d'.working = d.working

theorem KeepsFiles.trans_replaces {bytes : List UInt8} (first : KeepsFiles d d')
    (second : Replaces at_ bytes d' d'') : Replaces at_ bytes d d'' where
  file := second.file
  free := second.free
  others other apart content :=
    (second.others other apart content).trans (first.files other content)
  shut other apart content held :=
    (second.shut other apart content ((first.files other content).mpr held)).trans
      (first.shut other content held)
  directories other held := second.directories other (first.directories other held)
  working := second.working.trans first.working

theorem replaces_put (noDirectory : d.lookup at_ ≠ some .directory) (bytes : List UInt8) :
    Replaces at_ bytes d (d.put at_ (.file bytes)) := by
  have agrees := agreesOff_put d at_ (.file bytes)
  refine ⟨lookup_put_self d (ne_nil_of_lookup noDirectory) _, fun held => ?_,
    fun other apart content => ?_, fun other apart _ _ => agrees.shut other apart,
    fun other held => ?_, rfl⟩
  · exact (mem_sealed_put.mp held).2 rfl
  · rw [agrees.lookup other apart]
  · have apart : other ≠ at_ := by
      rintro rfl
      exact noDirectory held
    rw [agrees.lookup other apart, held]

/-- What was put where nothing was is gone again. -/
theorem AgreesOff.keepsFiles_remove (agrees : AgreesOff at_ d d') (free : d.lookup at_ = none) :
    KeepsFiles d (d'.remove at_) := by
  refine (agrees.trans (agreesOff_remove d' at_)).keepsFiles free fun bytes => ?_
  simp [lookup_remove, ne_nil_of_free free]

theorem moveFile_eq_ok_iff {bytes : List UInt8} (held : d.lookup temporary = some (.file bytes)) :
    d.moveFile temporary p = .ok d' ↔
      ∃ at_, d.moveTarget p = .ok at_ ∧ d' = (d.remove temporary).put at_ (.file bytes) := by
  rw [moveFile, bind_eq_ok_iff, held]
  exact exists_congr fun at_ => and_congr_right fun _ => ⟨fun same => (Except.ok.inj same).symm,
    fun same => congrArg _ same.symm⟩

/-- A moved file is gone from where it was, and a path that led to its target leads there still. -/
theorem replaces_of_moveFile {bytes : List UInt8} (held : d.lookup temporary = some (.file bytes))
    (moved : d.moveFile temporary p = .ok d') :
    ∃ at_, d'.locate p = .ok at_ ∧ Replaces at_ bytes (d.remove temporary) d' := by
  obtain ⟨at_, target, rfl⟩ := (moveFile_eq_ok_iff held).mp moved
  obtain ⟨located, noDirectory⟩ := moveTarget_eq_ok target
  have removed (other : List String) (around : d.lookup other = some .directory) :
      (d.remove temporary).lookup other = some .directory := by
    have apart : other ≠ temporary := by
      rintro rfl
      cases held.symm.trans around
    rw [(agreesOff_remove d temporary).lookup other apart, around]
  have noDirectory' : (d.remove temporary).lookup at_ ≠ some .directory := by
    rw [lookup_remove]
    split
    · simp
    · exact noDirectory
  have put := replaces_put noDirectory' bytes
  refine ⟨at_, ?_, put⟩
  -- The target was found while the file was still at its old place, which no path leads through.
  exact locate_of_directories
    (fun other around => put.directories other (removed other around)) rfl located

/-- A file moved from a place where there was nothing before. -/
theorem AgreesOff.replaces_of_moveFile {bytes : List UInt8} (agrees : AgreesOff temporary d d')
    (free : d.lookup temporary = none) (written : d'.lookup temporary = some (.file bytes))
    (moved : d'.moveFile temporary p = .ok d'') :
    ∃ at_, d''.locate p = .ok at_ ∧ Replaces at_ bytes d d'' := by
  obtain ⟨at_, located, put⟩ := Disk.replaces_of_moveFile written moved
  exact ⟨at_, located, (agrees.keepsFiles_remove free).trans_replaces put⟩

/-- The temporary file is beside the target, and nothing was there. -/
theorem lookup_temporaryPath {directory : List String} (around : d.locate p.parent = .ok directory)
    (located : d.locate (d.temporaryPath directory p) = .ok temporary) :
    d.lookup temporary = none := by
  have plain := temporaryName_ne_stepUp p.name (d.freeTag directory p.name)
  rw [locate_eq_placeOf located, temporaryPath, placeOf_concat plain, ← locate_eq_placeOf around]
  exact lookup_temporary d directory p.name

/-- Either the writing fails and all files are as they were, or one has the bytes, namely the one
that the path leads to afterwards. -/
theorem writeCoded_outcome (d : Disk) (p : Path) (coded : Except Encoding.Refusal (List UInt8)) :
    (∃ f d', (writeCoded p coded).run.run d = (.error f, d') ∧ KeepsFiles d d') ∨
    ∃ at_ bytes d', (writeCoded p coded).run.run d = (.ok p, d') ∧ coded = .ok bytes ∧
      d'.locate p = .ok at_ ∧ Replaces at_ bytes d d' := by
  have around := ensureDirectories_keeps d p.parent.slashes p.parent.names
  rw [writeCoded, run_bind, run_makeDirectories]
  generalize d.ensureDirectories p.parent.slashes p.parent.names = outcome at around ⊢
  obtain ⟨result, made⟩ := outcome
  cases result with
  | error f => exact .inl ⟨f, made, rfl, around⟩
  | ok done =>
    simp only [run_bind, run_get, run_liftExcept]
    cases parent : made.locate p.parent with
    | error f => exact .inl ⟨f, made, rfl, around⟩
    | ok directory =>
      simp only
      cases located : made.locate (made.temporaryPath directory p) with
      | error f => exact .inl ⟨f, made, rfl, around⟩
      | ok temporary =>
        -- From here on it only matters that the temporary place is free.
        have free := lookup_temporaryPath parent located
        have opened := agreesOff_put made temporary (.file [])
        simp only [run_set]
        cases coded with
        | error r =>
          exact .inl ⟨.encoding r, _, rfl, around.trans (opened.keepsFiles_remove free)⟩
        | ok bytes =>
          have agrees := opened.trans (agreesOff_put _ temporary (.file bytes))
          have written := lookup_put_self (made.put temporary (.file [])) (ne_nil_of_free free)
            (.file bytes)
          simp only [run_bind, run_modify, run_get]
          generalize (made.put temporary (.file [])).put temporary (.file bytes) = filled
            at agrees written ⊢
          cases moved : filled.moveFile temporary p with
          | error f => exact .inl ⟨f, _, rfl, around.trans (agrees.keepsFiles_remove free)⟩
          | ok d' =>
            obtain ⟨at_, located, replaced⟩ := agrees.replaces_of_moveFile free written moved
            exact .inr ⟨at_, bytes, d', rfl, rfl, located, around.trans_replaces replaced⟩

theorem writeText_outcome (d : Disk) (p : Path) (t : List Char) (encoding : String) :
    (∃ f d', (writeText p t encoding).run.run d = (.error f, d') ∧ KeepsFiles d d') ∨
    ∃ at_ bytes d', (writeText p t encoding).run.run d = (.ok p, d') ∧
      Encoding.encoders.given t encoding = .ok bytes ∧ d'.locate p = .ok at_ ∧
      Replaces at_ bytes d d' :=
  writeCoded_outcome d p (Encoding.encoders.given t encoding)

/-! ### What every step of a writing keeps -/

/-- A writing makes directories around its target, puts files and removes them. What these steps
keep, the writing keeps. -/
theorem writeCoded_lift {keeps : Disk → Disk → Prop} (refl : ∀ d, keeps d d)
    (trans : ∀ {d d' d''}, keeps d d' → keeps d' d'' → keeps d d'') {p : Path}
    (made : ∀ {d d' around}, around <+: p.parent.names →
      d.ensureDirectory ⟨p.slashes, around⟩ = .ok d' → keeps d d')
    (put : ∀ d at_ bytes, keeps d (d.put at_ (.file bytes)))
    (removed : ∀ d at_, keeps d (d.remove at_))
    (coded : Except Encoding.Refusal (List UInt8)) (d : Disk) :
    keeps d ((writeCoded p coded).run.run d).2 := by
  have around := ensureDirectories_lift refl trans d p.parent.slashes p.parent.names made
  rw [writeCoded, run_bind, run_makeDirectories]
  generalize d.ensureDirectories p.parent.slashes p.parent.names = outcome at around ⊢
  obtain ⟨result, e⟩ := outcome
  cases result with
  | error f => exact around
  | ok done =>
    simp only [run_bind, run_get, run_liftExcept]
    cases parent : e.locate p.parent with
    | error f => exact around
    | ok directory =>
      simp only
      cases located : e.locate (e.temporaryPath directory p) with
      | error f => exact around
      | ok temporary =>
        have opened := trans around (put e temporary [])
        simp only [run_set]
        cases coded with
        | error r => exact trans opened (removed _ temporary)
        | ok bytes =>
          have written := lookup_put_self (e.put temporary (.file []))
            (ne_nil_of_free (lookup_temporaryPath parent located)) (.file bytes)
          have filled := trans opened (put _ temporary bytes)
          simp only [run_bind, run_modify, run_get]
          cases moved : Disk.moveFile _ temporary p with
          | error f => exact trans filled (removed _ temporary)
          | ok d' =>
            obtain ⟨at_, _, rfl⟩ := (moveFile_eq_ok_iff written).mp moved
            exact trans filled (trans (removed _ temporary) (put _ at_ bytes))

/-! ### Where paths begin -/

structure SameOrigins (d d' : Disk) : Prop where
  working : d'.working = d.working
  home : d'.home = d.home
  users : d'.users = d.users

theorem SameOrigins.refl (d : Disk) : SameOrigins d d := ⟨rfl, rfl, rfl⟩

theorem SameOrigins.trans (first : SameOrigins d d') (second : SameOrigins d' d'') :
    SameOrigins d d'' :=
  ⟨second.working.trans first.working, second.home.trans first.home,
    second.users.trans first.users⟩

theorem SameOrigins.normalize (same : SameOrigins d d') (p : Path) :
    d'.normalize p = d.normalize p := by
  simp only [Disk.normalize, expandHome, homeOf, resolve, same.working, same.home, same.users]

theorem SameOrigins.placeOf (same : SameOrigins d d') (p : Path) : d'.placeOf p = d.placeOf p := by
  rw [Disk.placeOf, Disk.placeOf, same.working]

theorem ensureDirectory_origins (made : d.ensureDirectory p = .ok d') : SameOrigins d d' := by
  rw [ensureDirectory] at made
  split at made
  · next made' =>
    obtain rfl := Except.ok.inj made
    rw [makeDirectory] at made'
    obtain ⟨at_, _, made'⟩ := bind_eq_ok_iff.mp made'
    split at made'
    · cases made'
    · obtain rfl := Except.ok.inj made'
      exact ⟨rfl, rfl, rfl⟩
  · cases made
  · split at made
    · obtain rfl := Except.ok.inj made
      exact .refl d
    · cases made

theorem writeCoded_origins (d : Disk) (p : Path) (coded : Except Encoding.Refusal (List UInt8)) :
    SameOrigins d ((writeCoded p coded).run.run d).2 :=
  writeCoded_lift .refl .trans (fun _ => ensureDirectory_origins) (fun _ _ _ => ⟨rfl, rfl, rfl⟩)
    (fun _ _ => ⟨rfl, rfl, rfl⟩) _ d

theorem given_utf8 (t : List Char) :
    Encoding.encoders.given t "utf-8" = .ok (Encoding.Utf8.encode t) := by
  have known : Encoding.Scheme.named? "utf-8" = some (.utf8 false) := by decide +kernel
  have parts : t.mapM ((Encoding.Scheme.utf8 false).encodeChar? ·) =
      some (t.map Encoding.Utf8.encodeChar) := List.mapM_pure
  have spelled : (Encoding.Scheme.utf8 false).encode? t = some (Encoding.Utf8.encode t) := by
    simp only [Encoding.Scheme.encode?, parts, Option.bind_eq_bind, Option.bind_some]
    rfl
  have encoder := Encoding.encoders_of_named known
  rw [Encoding.Encoders.given, Encoding.Encoders.stream, encoder]
  simp only [Encoding.Scheme.encoder, spelled]
  rfl

end OpenDocs.Disk
