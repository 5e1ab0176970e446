import OpenDocs.Proofs.Disk.Writing
import OpenDocs.Proofs.Encoding.Marks
import OpenDocs.Proofs.Json.Printed
import OpenDocs.Settings.Store

/-!
# Saved settings are loaded again

The file has each field under its name, and a version that names none. Where all values are such as
their fields are declared to have, the file's text is read as the record it was printed from.
-/

namespace OpenDocs.Settings

/-! ### Declared values -/

/-- The values that a field is declared to have. -/
def Field.Admits (v : Json) : Field → Prop
  | host | textSource => ∃ s, v = .text s
  | port | maxSymbolDepth => ∃ n, v = .int n
  | corsOrigins | corsMethods | corsHeaders => ∃ xs, v = Json.texts xs
  | assetsDir | diffDir | logDir => v = .null ∨ ∃ s, v = .text s
  | debugLogging => ∃ b, v = .bool b

theorem initial_admits (f : Field) : f.Admits f.initial := by
  cases f with
  | assetsDir | diffDir | logDir => exact .inl rfl
  | _ => exact ⟨_, rfl⟩

section

variable {f : Field} {v : Json}

theorem Field.Admits.cases (admits : f.Admits v) : v = .null ∨ (∃ b, v = .bool b) ∨
    (∃ n, v = .int n) ∨ (∃ s, v = .text s) ∨ ∃ xs, v = Json.texts xs := by
  cases f with
  | host | textSource => exact .inr (.inr (.inr (.inl admits)))
  | port | maxSymbolDepth => exact .inr (.inr (.inl admits))
  | corsOrigins | corsMethods | corsHeaders => exact .inr (.inr (.inr (.inr admits)))
  | assetsDir | diffDir | logDir => exact admits.imp_right fun text => .inr (.inr (.inl text))
  | debugLogging => exact .inr (.inl admits)

theorem Field.Admits.plain {room : Nat} (admits : f.Admits v) (short : v.hasLongNumber = false) :
    Json.Plain (room + 1) v := by
  rcases admits.cases with rfl | ⟨b, rfl⟩ | ⟨n, rfl⟩ | ⟨s, rfl⟩ | ⟨xs, rfl⟩
  · exact .null
  · exact .bool b
  · refine .int n ?_
    rw [Json.hasLongNumber, Json.isLong, decide_eq_false_iff_not] at short
    omega
  · exact .text s
  · refine .list _ fun w held => ?_
    obtain ⟨x, _, rfl⟩ := List.mem_map.mp held
    exact .text x

theorem sortedItems_texts (xs : List String) :
    Json.sortedItems (xs.map .text) = xs.map .text := by
  induction xs with
  | nil => rfl
  | cons x xs ih =>
    rw [List.map_cons, Json.sortedItems, ih]
    rfl

theorem Field.Admits.sorted (admits : f.Admits v) : v.sorted = v := by
  rcases admits.cases with rfl | ⟨b, rfl⟩ | ⟨n, rfl⟩ | ⟨s, rfl⟩ | ⟨xs, rfl⟩
  · rfl
  · rfl
  · rfl
  · rfl
  · rw [Json.texts, Json.sorted, sortedItems_texts]

end

/-! ### Fields by name -/

section

variable {s : Settings} {f g : Field} {values : List (String × Json)} {v : Json}

theorem Field.mem_all (f : Field) : f ∈ Field.all := by cases f <;> decide

theorem named?_eq_some {name : String} (found : Field.named? name = some f) : name = f.name := by
  rw [Field.named?] at found
  have same := List.find?_some found
  exact (eq_of_beq same).symm

theorem name_injective : Function.Injective Field.name := by
  intro f g same
  have found := Field.named?_name f
  rw [same, Field.named?_name] at found
  exact (Option.some.inj found).symm

theorem value_setNamed_one (s : Settings) (e : String × Json) :
    (s.setNamed [e]).value f = if e.1 = f.name then e.2 else s.value f := by
  obtain ⟨name, v⟩ := e
  simp only [setNamed, List.foldl_cons, List.foldl_nil]
  split
  · next g found =>
    rw [value_set, named?_eq_some found]
    by_cases same : f = g
    · rw [if_pos same, if_pos (congrArg _ same.symm)]
    · rw [if_neg same, if_neg fun named => same (name_injective named.symm)]
  · next none_ =>
    have apart : name ≠ f.name := by
      rintro rfl
      rw [Field.named?_name] at none_
      cases none_
    rw [if_neg apart]

theorem setNamed_cons (s : Settings) (e : String × Json) (values : List (String × Json)) :
    s.setNamed (e :: values) = (s.setNamed [e]).setNamed values := rfl

theorem value_setNamed_of_notMem (other : f.name ∉ values.map (·.1)) :
    (s.setNamed values).value f = s.value f := by
  induction values generalizing s with
  | nil => rfl
  | cons e values ih =>
    rw [List.map_cons, List.mem_cons, not_or] at other
    rw [setNamed_cons, ih other.2, value_setNamed_one, if_neg (Ne.symm other.1)]

theorem value_setNamed (distinct : (values.map (·.1)).Nodup) (listed : (f.name, v) ∈ values) :
    (s.setNamed values).value f = v := by
  induction values generalizing s with
  | nil => cases listed
  | cons e values ih =>
    rw [List.map_cons, List.nodup_cons] at distinct
    rw [setNamed_cons]
    rcases List.mem_cons.mp listed with rfl | later
    · rw [value_setNamed_of_notMem distinct.1, value_setNamed_one, if_pos rfl]
    · exact ih distinct.2 later

end

/-! ### The file's text -/

section

variable {s : Settings}

/-- The fields and the version of the format, as they are before they are sorted. -/
def written (s : Settings) : List (String × Json) :=
  Field.all.map (fun f => (f.name, s.value f)) ++ [("version", .int 1)]

theorem nodup_written (s : Settings) : (s.written.map (·.1)).Nodup := by
  change ["host", "port", "cors_origins", "cors_methods", "cors_headers", "assets_dir", "diff_dir",
    "text_source", "max_symbol_depth", "debug_logging", "log_dir", "version"].Nodup
  decide

theorem mem_written (s : Settings) (f : Field) : (f.name, s.value f) ∈ s.written :=
  List.mem_append_left _ (List.mem_map_of_mem f.mem_all)

theorem forall_mem_written (good : Json → Prop) (values : ∀ f, good (s.value f))
    (version : good (.int 1)) : ∀ e ∈ s.written, good e.2 := by
  intro e listed
  rcases List.mem_append.mp listed with field | last
  · obtain ⟨f, _, rfl⟩ := List.mem_map.mp field
    exact values f
  · obtain rfl := List.mem_singleton.mp last
    exact version

theorem sortedFields_eq_self {fields : List (String × Json)}
    (sorted : ∀ e ∈ fields, e.2.sorted = e.2) : Json.sortedFields fields = fields := by
  induction fields with
  | nil => rfl
  | cons e fields ih =>
    rw [Json.sortedFields, sorted e List.mem_cons_self,
      ih fun x held => sorted x (List.mem_cons_of_mem e held)]

/-- The text is read as a record of just what was written, in some order, and holds no line breaks
but line feeds. -/
theorem exists_read_fileText (room : Nat) (admits : ∀ f : Field, f.Admits (s.value f))
    (short : ∀ f, (s.value f).hasLongNumber = false) :
    ∃ fields, Json.readWithin (room + 2) s.fileText = .ok (.record fields) ∧
      fields.Perm s.written ∧ '\r' ∉ s.fileText.toList := by
  have perm := List.mergeSort_perm s.written fun a b => decide (a.1 ≤ b.1)
  have sorted : Json.sorted (.record s.written) =
      .record (s.written.mergeSort fun a b => decide (a.1 ≤ b.1)) := by
    rw [Json.sorted, sortedFields_eq_self]
    exact forall_mem_written (fun v => v.sorted = v) (fun f => (admits f).sorted) rfl
  have plain : Json.Plain (room + 2)
      (.record (s.written.mergeSort fun a b => decide (a.1 ≤ b.1))) := by
    refine .record _ ?_ fun e listed => ?_
    · exact (perm.map _).nodup_iff.mpr (nodup_written s)
    · exact forall_mem_written (Json.Plain (room + 1)) (fun f => (admits f).plain (short f))
        (.int 1 (by decide)) e (perm.mem_iff.mp listed)
  have text : s.fileText = (Json.sorted (.record s.written)).indented := rfl
  rw [text, sorted]
  exact ⟨_, plain.read_indented, perm, plain.return_notMem 0⟩

end

/-! ### Saving and loading -/

section

variable {s : Settings} {d d' : Disk} {env : Variables} {path : Disk.Path} {notice : Notice}

theorem lookup_of_openFile {draft : Disk.Path} {bytes : List UInt8}
    (opened : d.openFile draft bytes = .ok d') :
    ∃ at_, d'.locate draft = .ok at_ ∧ d'.lookup at_ = some (.file bytes) := by
  rw [Disk.openFile] at opened
  obtain ⟨at_, located, opened⟩ := bind_eq_ok_iff.mp opened
  split at opened
  · cases opened
  · next noDirectory =>
    split at opened
    · cases opened
    · obtain rfl := Except.ok.inj opened
      have put := Disk.replaces_put noDirectory bytes
      exact ⟨at_, Disk.locate_of_directories put.directories put.working located, put.file⟩

/-- A save that returns has put the text into the draft and moved that to the path. -/
theorem exists_of_save (saved : s.save d path = (.ok notice, d')) :
    (∀ f, (s.value f).hasLongNumber = false) ∧ ∃ around draft drafted,
      Disk.openFile around draft (Encoding.Utf8.encode s.fileText.toList) = .ok drafted ∧
        (drafted.locate draft >>= (drafted.moveFile · path)) = .ok d' := by
  rw [save] at saved
  split at saved
  · cases saved
  · next short =>
    refine ⟨fun f => ?_, ?_⟩
    · rw [← Bool.not_eq_true]
      exact fun long => short (List.any_eq_true.mpr ⟨f, f.mem_all, long⟩)
    · split at saved
      · cases saved
      · split at saved
        · cases saved
        · split at saved
          · cases saved
          · next opened =>
            split at saved
            · cases saved
            · next moved =>
              obtain ⟨_, rfl⟩ := Prod.mk.inj saved
              exact ⟨_, _, _, opened, moved⟩

theorem readBytes_of_save (saved : s.save d path = (.ok notice, d')) :
    d'.readBytes path = .ok (Encoding.Utf8.encode s.fileText.toList) := by
  obtain ⟨_, around, draft, drafted, opened, moved⟩ := exists_of_save saved
  obtain ⟨place, located, held⟩ := lookup_of_openFile opened
  rw [located] at moved
  obtain ⟨at_, target, put⟩ := Disk.replaces_of_moveFile held moved
  exact Disk.readBytes_eq_ok_iff.mpr ⟨at_, target, put.file, put.free⟩

theorem joinBreaks_eq_self {t : List Char} (free : '\r' ∉ t) : joinBreaks t = t := by
  induction t with
  | nil => rfl
  | cons c t ih =>
    rw [List.mem_cons, not_or] at free
    rw [joinBreaks, ih free.2]
    · exact fun _ same _ => free.1 same.symm
    · exact fun same => free.1 same.symm

theorem jsonOf_eq_readWithin {room : Nat} {t : List Char} (free : '\r' ∉ t) :
    jsonOf room t = Json.readWithin room (String.ofList t) := by
  rw [jsonOf, joinBreaks_eq_self free]

theorem readFile_of_readBytes {room : Nat} {t : String} {fields : List (String × Json)}
    (held : d.readBytes path = .ok (Encoding.Utf8.encode t.toList)) (free : '\r' ∉ t.toList)
    (read : Json.readWithin room t = .ok (.record fields)) (filled : fields ≠ []) :
    readFile room d path = (.ok fields, [.loaded path]) := by
  obtain ⟨at_, located, found, _⟩ := Disk.readBytes_eq_ok_iff.mp held
  have leads : d.find? path = .ok (some (.file (Encoding.Utf8.encode t.toList))) := by
    rw [Disk.find?, Disk.find, located]
    simp only [bind, Except.bind, found]
    rfl
  have decoded : Encoding.decodeAs (.utf8 false) "strict" (Encoding.Utf8.encode t.toList) =
      .ok t.toList := Encoding.decodeAs_of_ok (Encoding.Utf8.decode_eq_ok_iff.mpr rfl)
  rw [readFile, leads]
  simp only [held, decoded, readText, jsonOf_eq_readWithin free, String.ofList_toList, read]
  cases fields with
  | nil => exact absurd rfl filled
  | cons e fields => rfl

theorem loadWithin_of_save (room : Nat) (admits : ∀ f : Field, f.Admits (s.value f))
    (unset : ∀ v ∈ environmentVariables, env.lookup v.1 = none)
    (saved : s.save d path = (.ok notice, d')) :
    loadWithin (room + 2) d' env path [] = (.ok s, [.loaded path]) := by
  have held := readBytes_of_save saved
  obtain ⟨fields, read, perm, free⟩ := exists_read_fileText room admits (exists_of_save saved).1
  have distinct : (fields.map (·.1)).Nodup := (perm.map _).nodup_iff.mpr (nodup_written s)
  have same : initial.setNamed fields = s := by
    have values : (initial.setNamed fields).value = s.value :=
      funext fun f => value_setNamed distinct (perm.mem_iff.mpr (mem_written s f))
    cases s
    exact congrArg Settings.mk values
  have filled : fields ≠ [] := by
    rintro rfl
    exact absurd perm.symm.eq_nil (by simp [written])
  have noOverrides : env.overrides = [] := by
    rw [Variables.overrides, List.filterMap_eq_nil_iff]
    rintro ⟨variable_, f, reading⟩ listed
    simp [unset _ listed]
  have noneMisread : env.misread = [] := by
    rw [Variables.misread, List.filterMap_eq_nil_iff]
    rintro ⟨variable_, f, reading⟩ listed
    simp [unset _ listed]
  rw [loadWithin, readFile_of_readBytes held free read filled]
  simp only [same, noOverrides, noneMisread]
  rfl

/-- Without variables set, what was saved is loaded: every field has its value again, be it null or
not. -/
theorem load_of_save (admits : ∀ f : Field, f.Admits (s.value f))
    (unset : ∀ v ∈ environmentVariables, env.lookup v.1 = none)
    (saved : s.save d path = (.ok notice, d')) : load d' env path [] = (.ok s, [.loaded path]) :=
  loadWithin_of_save 988 admits unset saved

theorem load_of_save_by_every_kind_of_value :
    let values : Field → Json
      | .host => .text "\"\\\n\x00😀é"
      | .port => .int (-12)
      | .corsOrigins => Json.texts []
      | .logDir => .text ""
      | f => f.initial
    let s : Settings := ⟨values⟩
    let d : Disk := ⟨[], [], ⟨1, []⟩, ⟨1, []⟩, [], []⟩
    let path : Disk.Path := ⟨1, ["s", "settings.json"]⟩
    load (s.save d path).2 [("HOME", Text.points "/")] path [] = (.ok s, [.loaded path]) := by
  intro values s d path
  have admits (f : Field) : f.Admits (s.value f) := by
    cases f with
    | assetsDir | diffDir => exact .inl rfl
    | logDir => exact .inr ⟨_, rfl⟩
    | _ => exact ⟨_, rfl⟩
  have returned : (s.save d path).1.isOk = true := by decide +kernel
  cases saved : (s.save d path).1 with
  | error fault =>
    rw [saved] at returned
    cases returned
  | ok notice => exact load_of_save admits (by decide) (Prod.ext saved rfl)

end

end OpenDocs.Settings
