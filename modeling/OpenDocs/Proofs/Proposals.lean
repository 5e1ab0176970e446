import OpenDocs.Proofs.Disk.Atomic
import OpenDocs.Proofs.Disk.SafeNames
import OpenDocs.Proposals

/-!
# Where proposals are written

A proposal is written to a file in the directory for proposals itself, under the safe name of its
label, and nowhere else. Two proposals share a file just if their labels have the same safe name.
-/

namespace OpenDocs.Proposals

/-- What comes of telling the listeners of a preview, which is kept in any case. -/
def publish (ps : Proposals) (p : Preview) : Except Failure Preview × Proposals :=
  let (told, refused) := tell p ps.listeners
  (match refused with
    | some name => .error (.refused s!"listener {name}")
    | none => .ok p,
    { ps with last := some p, heard := ps.heard ++ told.map (·, p) })

/-- Either a proposal cannot be written and all files are as they were, or the file at one place
holds it, all others are as they were, and the listeners are told. -/
inductive Presents (d : Disk) (ps : Proposals) (current proposed : List Char) (label : String)
    (at_ : List String) : Except Failure Preview × Proposals × Disk → Prop
  | unwritten {f : Disk.Fault} {d' : Disk} : d.KeepsFiles d' →
      Presents d ps current proposed label at_ (.error (.fault f), ps, d')
  | written {d' : Disk} : d'.locate (ps.target label) = .ok at_ →
      Disk.Replaces at_ (Encoding.Utf8.encode proposed) d d' →
      Presents d ps current proposed label at_
        ((ps.publish (ps.preview current proposed label)).1,
          (ps.publish (ps.preview current proposed label)).2, d')

theorem present_eq (d : Disk) (ps : Proposals) (current proposed : List Char) (label : String) :
    ps.present d current proposed label =
      match (Disk.writeText (ps.target label) proposed "utf-8").run.run d with
      | (.error f, d') => (.error (.fault f), ps, d')
      | (.ok _, d') => ((ps.publish (ps.preview current proposed label)).1,
          (ps.publish (ps.preview current proposed label)).2, d') := by
  rw [present]
  generalize (Disk.writeText (ps.target label) proposed "utf-8").run.run d = outcome
  obtain ⟨result, d'⟩ := outcome
  cases result with
  | error f => rfl
  | ok p =>
    simp only [publish]
    generalize tell (ps.preview current proposed label) ps.listeners = heard
    obtain ⟨told, refused⟩ := heard
    cases refused <;> rfl

theorem presents (d : Disk) (ps : Proposals) (current proposed : List Char) (label : String) :
    Presents d ps current proposed label (d.placeOf (ps.target label))
      (ps.present d current proposed label) := by
  rw [present_eq]
  rcases Disk.writeText_outcome d (ps.target label) proposed "utf-8" with
    ⟨f, d', run, kept⟩ | ⟨at_, bytes, d', run, coded, located, replaced⟩
  · rw [run]
    exact .unwritten kept
  · obtain rfl := Except.ok.inj (coded.symm.trans (Disk.given_utf8 proposed))
    have place : at_ = d.placeOf (ps.target label) := by
      rw [Disk.locate_eq_placeOf located, Disk.placeOf, Disk.placeOf, replaced.working]
    subst place
    rw [run]
    exact .written located replaced

variable {d : Disk} {ps : Proposals} {current proposed : List Char} {label : String}

/-- The target is the file of the safe name in the directory for proposals. -/
theorem target_eq (ps : Proposals) (label : String) :
    ps.target label = ps.directory.join (.ofString (Disk.safeName label)) := by
  rw [(Disk.isSafeName_safeName label).ofString_eq, target]

theorem parent_target (ps : Proposals) (label : String) :
    (ps.target label).parent = ps.directory := by
  simp [target, Disk.Path.parent, Disk.Path.join, Disk.Path.isAbsolute]

theorem placeOf_target (d : Disk) (ps : Proposals) (label : String) :
    d.placeOf (ps.target label) = d.placeOf ps.directory ++ [Disk.safeName label] :=
  Disk.placeOf_concat (Disk.isSafeName_safeName label).isName.2

theorem disk_present (d : Disk) (ps : Proposals) (current proposed : List Char) (label : String) :
    (ps.present d current proposed label).2.2 =
      ((Disk.writeText (ps.target label) proposed "utf-8").run.run d).2 := by
  rw [present_eq]
  split <;> next run => rw [run]

/-- What a torn proposal leaves. -/
theorem presentTorn_outcome (d : Disk) (ps : Proposals) (label : String) :
    ∃ fault d', ps.presentTorn d label = (.fault fault, d') ∧ d.KeepsFiles d' ∧
      d.SameOrigins d' := by
  have origins := Disk.writeCoded_origins d (ps.target label) (.error .surrogate)
  rw [presentTorn]
  rcases Disk.writeCoded_outcome d (ps.target label) (.error .surrogate) with
    ⟨f, d', run, kept⟩ | ⟨_, _, _, _, coded, _⟩
  · rw [run] at origins ⊢
    exact ⟨f, d', rfl, kept, origins⟩
  · cases coded

/-- The only new directories are the one for proposals and those on the way to it. -/
theorem present_makesAlong (d : Disk) (ps : Proposals) (current proposed : List Char)
    (label : String) :
    Disk.MakesAlong ps.directory d (ps.present d current proposed label).2.2 := by
  rw [disk_present, ← parent_target ps label]
  exact Disk.writeCoded_makesAlong d (ps.target label) _

/-- Where there is room for the file, it is written. -/
theorem present_of_ready {directory : List String}
    (ready : Disk.Ready d (ps.target label) directory) (f : Disk.Fault) :
    (ps.present d current proposed label).1 ≠ .error (.fault f) := by
  have wrote : ((Disk.writeText (ps.target label) proposed "utf-8").run.run d).1 =
      .ok (ps.target label) := by
    rw [Disk.writeText, Disk.writeWith, Disk.given_utf8]
    exact Disk.writeCoded_of_ready ready _
  rw [present_eq]
  generalize (Disk.writeText (ps.target label) proposed "utf-8").run.run d = outcome at wrote ⊢
  obtain ⟨result, d'⟩ := outcome
  subst wrote
  simp only [publish]
  split <;> simp

/-- A proposal is written right into the directory for proposals, to a file that is named after its
label, if it is written at all, which it is where there is room for it. Labels share a file just if
they have the same safe name. -/
theorem present_confined (d : Disk) (ps : Proposals) (label : String) :
    let name := Disk.safeName label
    let place := d.placeOf ps.directory ++ [name]
    (Disk.IsSafeName name ∧ Disk.safeName name = name ∧ (name = label ↔ Disk.IsSafeName label)) ∧
    (Disk.Path.ofString name = ⟨0, [name]⟩ ∧
      ps.target label = ps.directory.join (.ofString name) ∧
      (ps.target label).parent = ps.directory ∧ ¬ place <+: d.placeOf ps.directory) ∧
    (∀ current proposed,
      Presents d ps current proposed label place (ps.present d current proposed label) ∧
      Disk.MakesAlong ps.directory d (ps.present d current proposed label).2.2 ∧
      ∀ directory, Disk.Ready d (ps.target label) directory →
        ∀ f, (ps.present d current proposed label).1 ≠ .error (.fault f)) ∧
    ∀ (d' : Disk) (ps' : Proposals) label', ps'.directory = ps.directory →
      d'.working = d.working →
      let place' := d'.placeOf (ps'.target label')
      (place' = place ↔ Disk.safeName label' = name) ∧ ∀ current proposed,
        Presents d' ps' current proposed label' place' (ps'.present d' current proposed label') := by
  intro name place
  have safe := Disk.isSafeName_safeName label
  refine ⟨⟨safe, safe.safeName_eq_self, Disk.safeName_eq_self_iff⟩,
    ⟨safe.ofString_eq, target_eq ps label, parent_target ps label, fun inside => ?_⟩,
    fun current proposed => ⟨?_, present_makesAlong d ps current proposed label,
      fun _ ready => present_of_ready ready⟩, ?_⟩
  · have longer := inside.length_le
    rw [List.length_append, List.length_singleton] at longer
    omega
  · have outcome := presents d ps current proposed label
    rwa [placeOf_target] at outcome
  · intro d' ps' label' directory working place'
    refine ⟨?_, fun current proposed => presents d' ps' current proposed label'⟩
    have beside : place' = d.placeOf ps.directory ++ [Disk.safeName label'] := by
      rw [← directory, Disk.placeOf, ← working]
      exact placeOf_target d' ps' label'
    rw [beside]
    constructor
    · intro same
      exact List.singleton_inj.mp (List.append_cancel_left same)
    · intro same
      rw [same]

/-- A label that begins with a step up, and one that is already safe and shares its file. -/
theorem present_confined_of_step_up :
    let d : Disk := ⟨[(["p"], .directory)], [], ⟨1, []⟩, ⟨1, []⟩, [], []⟩
    let ps : Proposals := ⟨⟨1, ["p"]⟩, 3, [], none, []⟩
    let d' := (ps.present d [] ['x'] "../.a:b").2.2
    Disk.Ready d (ps.target "../.a:b") ["p"] ∧ d'.lookup ["p", "a_b"] = some (.file [120]) ∧
      Disk.IsSafeName "a_b" ∧ d'.placeOf (ps.target "a_b") = ["p", "a_b"] := by
  intro d ps d'
  obtain ⟨⟨safe, _⟩, _, written, shared⟩ := present_confined d ps "../.a:b"
  have name : Disk.safeName "../.a:b" = "a_b" := by decide +kernel
  have ready : Disk.Ready d (ps.target "../.a:b") ["p"] :=
    ⟨by decide +kernel, by decide, ⟨["p", ".a_b.00000000.tmp"], by decide +kernel⟩,
      ⟨["p", "a_b"], by decide +kernel⟩⟩
  obtain ⟨outcome, made, returned⟩ := written [] ['x']
  have same := (shared d' ps "a_b" rfl made.working).1
  rw [name] at safe same outcome
  refine ⟨ready, ?_, safe, same.mpr safe.safeName_eq_self⟩
  cases run : ps.present d [] ['x'] "../.a:b" with
  | mk result rest =>
    have told := returned ["p"] ready
    rw [run] at outcome told
    cases outcome with
    | unwritten _ => exact absurd rfl (told _)
    | written _ replaced =>
      have file := replaced.file
      simp only [d', run]
      exact file

end OpenDocs.Proposals
