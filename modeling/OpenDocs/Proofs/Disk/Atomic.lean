import OpenDocs.Proofs.Disk.Writing

/-!
# Writing is all or nothing

A writing that returns has given its target the new bytes and left every other file as it was; one
that fails, at whichever step, has left all files as they were. Neither leaves a file behind that
was not there, and the only new directories are those on the way to the target. The new bytes are
those that the encoder gave, without what it may still owe.
-/

namespace OpenDocs.Disk

open Encoding

variable {d d' d'' : Disk} {p q : Path} {at_ directory temporary : List String}
  {coded : Except Refusal (List UInt8)}

/-! ### New directories -/

/-- All new directories are on the way along a path. -/
structure MakesAlong (p : Path) (d d' : Disk) : Prop where
  directories : ∀ at_, d'.lookup at_ = some .directory →
    d.lookup at_ = some .directory ∨ ∃ names, names <+: p.names ∧ at_ = d.placeOf ⟨p.slashes, names⟩
  working : d'.working = d.working

theorem MakesAlong.refl (d : Disk) : MakesAlong p d d := ⟨fun _ => .inl, rfl⟩

theorem MakesAlong.trans (first : MakesAlong p d d') (second : MakesAlong p d' d'') :
    MakesAlong p d d'' := by
  refine ⟨fun at_ held => ?_, second.working.trans first.working⟩
  rcases second.directories at_ held with old | ⟨names, along, place⟩
  · exact first.directories at_ old
  · rw [Disk.placeOf, first.working] at place
    exact .inr ⟨names, along, place⟩

theorem makesAlong_put_file (d : Disk) (at_ : List String) (bytes : List UInt8) :
    MakesAlong p d (d.put at_ (.file bytes)) := by
  refine ⟨fun other held => .inl ?_, rfl⟩
  rw [lookup_put] at held
  split at held
  · cases held
  · exact held

theorem makesAlong_remove (d : Disk) (at_ : List String) : MakesAlong p d (d.remove at_) := by
  refine ⟨fun other held => .inl ?_, rfl⟩
  rw [lookup_remove] at held
  split at held
  · cases held
  · exact held

theorem ensureDirectory_makesAlong {names : List String} (along : names <+: p.names)
    (made : d.ensureDirectory ⟨p.slashes, names⟩ = .ok d') : MakesAlong p d d' := by
  rw [ensureDirectory] at made
  split at made
  · next made' =>
    obtain rfl := Except.ok.inj made
    rw [makeDirectory] at made'
    obtain ⟨place, located, made'⟩ := bind_eq_ok_iff.mp made'
    split at made'
    · cases made'
    · obtain rfl := Except.ok.inj made'
      refine ⟨fun at_ held => ?_, rfl⟩
      rw [lookup_put] at held
      split at held
      · next here => exact .inr ⟨names, along, here.1.trans (locate_eq_placeOf located)⟩
      · exact .inl held
  · cases made
  · split at made
    · obtain rfl := Except.ok.inj made
      exact .refl d
    · cases made

theorem writeCoded_makesAlong (d : Disk) (p : Path)
    (coded : Except Refusal (List UInt8)) :
    MakesAlong p.parent d ((writeCoded p coded).run.run d).2 :=
  writeCoded_lift .refl .trans ensureDirectory_makesAlong makesAlong_put_file makesAlong_remove
    coded d

/-! ### When a writing returns -/

/-- The target's directory is there and has room for a temporary file, and the target may be
replaced. -/
structure Ready (d : Disk) (p : Path) (directory : List String) : Prop where
  parent : d.locate p.parent = .ok directory
  there : d.lookup directory = some .directory
  room : ∃ temporary, d.locate (d.temporaryPath directory p) = .ok temporary
  target : ∃ at_, d.moveTarget p = .ok at_

theorem ensureDirectory_of_there (located : d.locate p = .ok directory)
    (there : d.lookup directory = some .directory) : d.ensureDirectory p = .ok d := by
  have refused : d.makeDirectory p = .error (.access .present p.text) :=
    bind_eq_error_iff.mpr (.inr ⟨directory, located, by rw [there]; rfl⟩)
  have found : d.find p = .ok .directory :=
    bind_eq_ok_iff.mpr ⟨directory, located, by rw [there]; rfl⟩
  rw [ensureDirectory, refused, isDirectory, found]
  rfl

theorem ensureDirectories_of_there (located : d.locate p = .ok directory)
    (there : d.lookup directory = some .directory) :
    d.ensureDirectories p.slashes p.names = (.ok (), d) := by
  rw [ensureDirectories, ensureDirectory_of_there located there]

/-- A temporary file beside the target does not keep it from being replaced. -/
theorem AgreesOff.moveTarget (agrees : AgreesOff temporary d d') (free : d.lookup temporary = none)
    {bytes : List UInt8} (written : d'.lookup temporary = some (.file bytes))
    (target : d.moveTarget p = .ok at_) : d'.moveTarget p = .ok at_ := by
  have kept (other : List String) (held : d.lookup other = some .directory) :
      d'.lookup other = some .directory := by
    have apart : other ≠ temporary := by
      rintro rfl
      cases free.symm.trans held
    rw [agrees.lookup other apart, held]
  have replaceable (place : List String) (other : d.lookup place ≠ some .directory) :
      d'.lookup place ≠ some .directory := by
    by_cases same : place = temporary
    · rw [same, written]
      simp
    · rwa [agrees.lookup place same]
  rw [Disk.moveTarget] at target ⊢
  obtain ⟨place, located, target⟩ := bind_eq_ok_iff.mp target
  refine bind_eq_ok_iff.mpr ⟨place, locate_of_directories kept agrees.working located, ?_⟩
  split at target
  · cases target
  · cases target
  · split at target
    · cases target
    · next noDirectory =>
      split
      · next held => exact absurd held (replaceable place noDirectory)
      · exact target

theorem writeCoded_of_ready (ready : Ready d p directory) (bytes : List UInt8) :
    ((writeCoded p (.ok bytes)).run.run d).1 = .ok p := by
  obtain ⟨temporary, located⟩ := ready.room
  obtain ⟨at_, target⟩ := ready.target
  have free := lookup_temporaryPath ready.parent located
  have agrees := (agreesOff_put d temporary (.file [])).trans (agreesOff_put _ _ (.file bytes))
  have written := lookup_put_self (d.put temporary (.file [])) (ne_nil_of_free free) (.file bytes)
  have moved := (moveFile_eq_ok_iff written).mpr ⟨at_, agrees.moveTarget free written target, rfl⟩
  rw [writeCoded, run_bind, run_makeDirectories,
    ensureDirectories_of_there ready.parent ready.there]
  simp only [run_bind, run_get, run_liftExcept, ready.parent, located, run_set, run_modify]
  rw [moved]
  rfl

/-! ### The outcome of a writing -/

/-- What a writing of some bytes, or of none, has done to a disk. -/
structure AllOrNothing (d : Disk) (p : Path) (coded : Except Refusal (List UInt8))
    (outcome : Except Fault Path × Disk) : Prop where
  /-- The target has the bytes, and all other files are as they were. -/
  returned : ∀ q, outcome.1 = .ok q → q = p ∧ ∃ bytes, coded = .ok bytes ∧
    outcome.2.locate p = .ok (d.placeOf p) ∧ outcome.2.readBytes p = .ok bytes ∧
    ∀ other, other ≠ d.placeOf p → ∀ content,
      outcome.2.lookup other = some (.file content) ↔ d.lookup other = some (.file content)
  failed : ∀ f, outcome.1 = .error f → ∀ at_ content,
    outcome.2.lookup at_ = some (.file content) ↔ d.lookup at_ = some (.file content)
  directories : ∀ at_, d.lookup at_ = some .directory → outcome.2.lookup at_ = some .directory
  made : MakesAlong p.parent d outcome.2
  /-- It fails for no other reason than those that can be told beforehand. -/
  returns : ∀ directory bytes, Ready d p directory → coded = .ok bytes → outcome.1 = .ok p

theorem writeCoded_allOrNothing (d : Disk) (p : Path)
    (coded : Except Refusal (List UInt8)) :
    AllOrNothing d p coded ((writeCoded p coded).run.run d) := by
  have made := writeCoded_makesAlong d p coded
  have returns (directory : List String) (bytes : List UInt8) (ready : Ready d p directory)
      (spelled : coded = .ok bytes) : ((writeCoded p coded).run.run d).1 = .ok p := by
    rw [spelled]
    exact writeCoded_of_ready ready bytes
  rcases writeCoded_outcome d p coded with
    ⟨f, d', failed, keeps⟩ | ⟨at_, bytes, d', wrote, spelled, located, replaced⟩
  · rw [failed] at made returns ⊢
    refine ⟨?_, fun _ _ => keeps.files, keeps.directories, made, returns⟩
    rintro q ⟨⟩
  · have same : at_ = d.placeOf p := by
      rw [locate_eq_placeOf located, placeOf, placeOf, replaced.working]
    subst same
    rw [wrote] at made returns ⊢
    refine ⟨?_, ?_, replaced.directories, made, returns⟩
    · rintro q ⟨⟩
      have read := readBytes_eq_ok_iff.mpr ⟨_, located, replaced.file, replaced.free⟩
      exact ⟨rfl, bytes, spelled, located, read, replaced.others⟩
    · rintro f ⟨⟩

/-- A text that is written replaces the bytes of one file or changes none, whatever encoders there
are. The file then has what was given for the text, which is its encoding if and only if nothing is
owed at the end. Nothing ever is in an encoding that codes each character by itself. -/
theorem write_allOrNothing (encoders : Encoders) (d : Disk) (p : Path) (t : List Char)
    (encoding : String) :
    let outcome := (writeWith encoders p t encoding).run.run d
    AllOrNothing d p (encoders.given t encoding) outcome ∧
    (∀ q, outcome.1 = .ok q → ∃ s, encoders.stream t encoding = .ok s ∧
      ((∃ bytes, encoders.bytesOf t encoding = .ok bytes ∧ outcome.2.readBytes p = .ok bytes) ↔
        s.owed = .ok [])) ∧
    ∀ scheme : Scheme, encoders encoding = some scheme.encoder → ∀ q, outcome.1 = .ok q →
      ∃ bytes, scheme.encode? t = some bytes ∧ outcome.2.readBytes p = .ok bytes := by
  intro outcome
  have whole := writeCoded_allOrNothing d p (encoders.given t encoding)
  refine ⟨whole, fun q returned => ?_, fun scheme known q returned => ?_⟩
  · obtain ⟨_, bytes, given, _, read, _⟩ := whole.returned q returned
    obtain ⟨s, streamed, rfl⟩ := Encoders.given_eq_ok_iff.mp given
    refine ⟨s, streamed, ?_⟩
    rw [Encoders.bytesOf_of_stream streamed, ← s.bytes_eq_given_iff]
    constructor
    · rintro ⟨bytes, encoded, held⟩
      rwa [Except.ok.inj (read.symm.trans held)]
    · intro encoded
      exact ⟨s.given, encoded, read⟩
  · obtain ⟨_, bytes, given, _, read, _⟩ := whole.returned q returned
    obtain ⟨s, streamed, rfl⟩ := Encoders.given_eq_ok_iff.mp given
    rw [Encoders.stream, known] at streamed
    exact ⟨s.given, (Scheme.encoder_eq_ok_iff.mp streamed).1, read⟩

/-- The last part of a host name is kept back, and the file is left without it. -/
theorem written_host_name_is_cut :
    let d : Disk := ⟨[], [], ⟨1, []⟩, ⟨1, []⟩, [], []⟩
    let outcome := (writeText ⟨1, ["a"]⟩ ['b', '.', 'c'] "idna").run.run d
    outcome.1 = .ok ⟨1, ["a"]⟩ ∧ encoders.bytesOf ['b', '.', 'c'] "idna" = .ok [98, 46, 99] ∧
      outcome.2.readBytes ⟨1, ["a"]⟩ = .ok [98, 46] := by
  intro d outcome
  exact ⟨by decide +kernel, by decide +kernel, by decide +kernel⟩

end OpenDocs.Disk
