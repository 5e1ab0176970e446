import OpenDocs.Log.RollingFile
import OpenDocs.Proofs.Disk.Spelling
import OpenDocs.Proofs.Disk.Writing

/-!
# What a line changes

A line is added at the end of its file, with nothing before it if the file was put aside first. No
other file is changed but the backups, whose names go on from that of the file.
-/

namespace OpenDocs.Log

variable {d d' : Disk} {p : Disk.Path} {f : RollingFile} {maxBytes backups : Int}
  {place other : List String}

/-! ### Opening -/

/-- The file is there, at the place that its path names. -/
theorem openRolling_eq_ok (opened : openRolling d p maxBytes backups = .ok (f, d')) :
    d.resolve p = .ok (.ofNames f.place) ∧ (∃ bytes, d'.lookup f.place = some (.file bytes)) ∧
      Disk.AgreesOff f.place d d' := by
  obtain ⟨q, resolved, opened⟩ := bind_eq_ok_iff.mp opened
  obtain ⟨place, located, opened⟩ := bind_eq_ok_iff.mp opened
  have same : q = .ofNames place := by
    obtain ⟨_, rfl⟩ := Disk.resolve_eq_ok_iff.mp resolved
    rw [Disk.locate_eq_placeOf located]
    exact congrArg Disk.Path.ofNames
      (Disk.settle_of_down fun name held => (Disk.mem_of_mem_settle held).2).symm
  subst same
  split at opened
  · cases opened
  · next bytes held =>
    split at opened
    · cases opened
    · obtain ⟨rfl, rfl⟩ := Prod.mk.inj (Except.ok.inj opened)
      exact ⟨resolved, ⟨bytes, held⟩, fun _ _ => rfl, fun _ _ => Iff.rfl, rfl⟩
  · next free =>
    obtain ⟨rfl, rfl⟩ := Prod.mk.inj (Except.ok.inj opened)
    exact ⟨resolved, ⟨[], Disk.lookup_put_self d (Disk.ne_nil_of_free free) _⟩,
      Disk.agreesOff_put d place _⟩

/-! ### Adding a line -/

theorem lookup_moveOn {source target : List String} (old : other ≠ source) (new : other ≠ target) :
    (RollingFile.moveOn d source target).lookup other = d.lookup other := by
  rw [RollingFile.moveOn]
  split
  · next e held =>
    have moved : ((d.remove source).put target e).lookup other = d.lookup other := by
      rw [(Disk.agreesOff_put _ target _).lookup other new,
        (Disk.agreesOff_remove d source).lookup other old]
    simp only
    split <;> exact moved
  · rfl

theorem lookup_moveBackups (apart : ∀ n, other ≠ f.backup n) (n : Nat) :
    (RollingFile.moveBackups d f n).lookup other = d.lookup other := by
  induction n generalizing d with
  | zero => rfl
  | succ n ih => rw [RollingFile.moveBackups, ih, lookup_moveOn (apart _) (apart _)]

theorem lookup_roll (outside : other ≠ f.place) (apart : ∀ n, other ≠ f.backup n) :
    (f.roll d).lookup other = d.lookup other := by
  rw [RollingFile.roll]
  split
  · rfl
  · rw [(Disk.agreesOff_put _ f.place _).lookup other outside, lookup_moveOn outside (apart 1),
      lookup_moveBackups apart]

theorem lookup_append (outside : other ≠ f.place) (apart : ∀ n, other ≠ f.backup n)
    (line : List Char) : (f.append d line).lookup other = d.lookup other := by
  rw [RollingFile.append, (Disk.agreesOff_put _ f.place _).lookup other outside]
  split
  · exact lookup_roll outside apart
  · rfl

theorem bytes_of_lookup {bytes : List UInt8} (held : d.lookup f.place = some (.file bytes)) :
    f.bytes d = bytes := by
  rw [RollingFile.bytes, held]

theorem bytes_roll (d : Disk) (inside : f.place ≠ []) :
    f.bytes (f.roll d) = f.bytes d ∨ f.bytes (f.roll d) = [] := by
  rw [RollingFile.roll]
  split
  · exact .inl rfl
  · exact .inr (bytes_of_lookup (Disk.lookup_put_self _ inside _))

/-- The line is at the end of the file. -/
theorem lookup_append_self (d : Disk) (inside : f.place ≠ []) (line : List Char) :
    ∃ before, (before = f.bytes d ∨ before = []) ∧
      (f.append d line).lookup f.place =
        some (.file (before ++ Encoding.Utf8.encode line)) := by
  rw [RollingFile.append]
  refine ⟨_, ?_, Disk.lookup_put_self _ inside _⟩
  split
  · exact bytes_roll d inside
  · exact .inl rfl

/-- A backup has a name that goes on from that of its file. -/
theorem ne_backup {directory : List String} {name name' : String}
    (beside : f.place = directory ++ [name]) (apart : ¬ name.toList <+: name'.toList) (n : Nat) :
    directory ++ [name'] ≠ f.backup n := by
  have goesOn : s!"{name}.{n}" = name ++ s!".{n}" := String.append_assoc
  intro same
  rw [RollingFile.backup, beside, List.getLast?_concat] at same
  simp only [List.dropLast_concat] at same
  rw [List.singleton_inj.mp (List.append_cancel_left same), goesOn, String.toList_append] at apart
  exact apart (List.prefix_append _ _)

end OpenDocs.Log
