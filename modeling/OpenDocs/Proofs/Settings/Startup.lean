import OpenDocs.Proofs.Json.Keys
import OpenDocs.Proofs.Settings.Saving

/-!
# Settings at the start

A field has the value that its variable gives, or else the one that the caller asks for, or else the
one in the file, or else its initial one. This holds for every file that can be read as JSON, well
formed or not, with whatever room there is for lists and records within one another. Where the file
cannot be accessed, the settings are the initial ones, whatever the variables and the caller say,
and where it cannot be read for another reason, there are none.
-/

namespace OpenDocs.Settings

/-- A variable of the field is set to what can be read, and is read as the value. -/
def Variables.Gives (env : Variables) (f : Field) (v : Json) : Prop :=
  ∃ variable_ reading value, (variable_, f, reading) ∈ environmentVariables ∧
    env.lookup variable_ = some value ∧ reading.read? value = some v

/-- The field is given a value other than null. -/
def Asks (values : List (String × Json)) (f : Field) (v : Json) : Prop :=
  (f.name, v) ∈ values ∧ v ≠ .null

/-- The record in the file, empty if there is none that can be had. -/
def stored (room : Nat) (d : Disk) (path : Disk.Path) : List (String × Json) :=
  match d.readBytes path with
  | .ok bytes =>
    match (Encoding.Utf8.decode? bytes).map (jsonOf room) with
    | some (.ok v) => v.fields?.getD []
    | _ => []
  | _ => []

/-- Each field has its value from the first of the four that has one for it: the environment, the
caller, the file and the initial settings. -/
structure Heeds (env : Variables) (overrides stored : List (String × Json)) (s : Settings) :
    Prop where
  environment {f v} : env.Gives f v → s.value f = v
  caller {f v} : (∀ w, ¬ env.Gives f w) → Asks overrides f v → s.value f = v
  file {f v} : (∀ w, ¬ env.Gives f w) → (∀ w, ¬ Asks overrides f w) → (f.name, v) ∈ stored →
    s.value f = v
  initial {f} : (∀ w, ¬ env.Gives f w) → (∀ w, ¬ Asks overrides f w) →
    f.name ∉ stored.map (·.1) → s.value f = f.initial

/-- There is no file, or it holds a text in UTF-8 that is read as JSON or found not to be any. What
goes beyond a limit of the reader is neither. -/
def Legible (room : Nat) (d : Disk) (path : Disk.Path) : Prop :=
  d.find? path = .ok none ∨ ∃ t, d.readBytes path = .ok (Encoding.Utf8.encode t) ∧
    ∀ limit offset, jsonOf room t ≠ .error ⟨.beyond limit, offset⟩

/-- There is something in the file's place, or it cannot be looked for, and no bytes are had from
it: it is a directory, or it may not be opened, or its path is too long. -/
def Shut (d : Disk) (path : Disk.Path) : Prop :=
  d.find? path ≠ .ok none ∧ ∃ flaw text, d.readBytes path = .error (.access flaw text)

/-! ### What an override changes -/

section

variable {s : Settings} {source : String} {values : List (String × Json)} {f : Field} {v : Json}

/-- The values that an override takes over. -/
def takenOver (values : List (String × Json)) : List (String × Json) :=
  values.filter fun (name, v) => (Field.named? name).isSome && !(v matches .null)

theorem mem_takenOver : (f.name, v) ∈ takenOver values ↔ Asks values f v := by
  simp only [takenOver, List.mem_filter, Asks, Field.named?_name]
  cases v <;> simp

theorem override_eq (s : Settings) (source : String) (values : List (String × Json)) :
    (s.override source values).1 = s.setNamed (takenOver values) := by
  rw [override]
  split
  · next none_ =>
    rw [List.isEmpty_iff] at none_
    exact (congrArg s.setNamed none_).symm
  · rfl

theorem value_override (distinct : (values.map (·.1)).Nodup) (given : Asks values f v) :
    (s.override source values).1.value f = v := by
  rw [override_eq]
  exact value_setNamed ((List.filter_sublist.map _).nodup distinct) (mem_takenOver.mpr given)

theorem value_override_of_not_asks (unasked : ∀ w, ¬ Asks values f w) :
    (s.override source values).1.value f = s.value f := by
  rw [override_eq]
  refine value_setNamed_of_notMem fun named => ?_
  obtain ⟨⟨name, w⟩, held, rfl⟩ := List.mem_map.mp named
  exact unasked w (mem_takenOver.mp held)

end

/-! ### What the environment asks for -/

section

variable {env : Variables} {f : Field} {v : Json}

theorem Reading.read?_ne_null (reading : Reading) (value : List Text.Point) :
    reading.read? value ≠ some .null := by
  cases reading with
  | text =>
    rw [read?, Json.ofPoints]
    split <;> simp
  | truth | items => simp [read?]
  | integer => simp [read?, Option.bind_eq_some_iff]

/-- What one variable sets. -/
theorem setting_eq_some_iff {variable_ : String} {reading : Reading} {e : String × Json} :
    (env.lookup variable_ >>= fun value => reading.read? value >>= fun v => pure (f.name, v)) =
        some e ↔
      ∃ value v, env.lookup variable_ = some value ∧ reading.read? value = some v ∧
        e = (f.name, v) := by
  constructor
  · intro given
    obtain ⟨value, set, given⟩ := Option.bind_eq_some_iff.mp given
    obtain ⟨v, read, same⟩ := Option.bind_eq_some_iff.mp given
    exact ⟨value, v, set, read, (Option.some.inj same).symm⟩
  · rintro ⟨value, v, set, read, rfl⟩
    rw [set, Option.bind_eq_bind, Option.bind_some, read]
    rfl

theorem mem_overrides : (f.name, v) ∈ env.overrides ↔ env.Gives f v := by
  rw [Variables.overrides, List.mem_filterMap]
  constructor
  · rintro ⟨⟨variable_, g, reading⟩, listed, given⟩
    obtain ⟨value, w, set, read, same⟩ := setting_eq_some_iff.mp given
    obtain ⟨named, rfl⟩ := Prod.mk.inj same
    obtain rfl := name_injective named
    exact ⟨variable_, reading, value, listed, set, read⟩
  · rintro ⟨variable_, reading, value, listed, set, read⟩
    exact ⟨_, listed, setting_eq_some_iff.mpr ⟨value, v, set, read, rfl⟩⟩

theorem asks_overrides : Asks env.overrides f v ↔ env.Gives f v := by
  rw [Asks, mem_overrides]
  refine and_iff_left_of_imp ?_
  rintro ⟨_, reading, value, _, _, read⟩ rfl
  exact reading.read?_ne_null value read

/-- No field has two variables. -/
theorem nodup_overrides (env : Variables) : (env.overrides.map (·.1)).Nodup := by
  have distinct : environmentVariables.Pairwise fun a b => a.2.1.name ≠ b.2.1.name := by decide
  rw [List.Nodup, List.pairwise_map, Variables.overrides, List.pairwise_filterMap]
  refine distinct.imp fun {a b} apart c first e second => ?_
  obtain ⟨_, _, _, _, rfl⟩ := setting_eq_some_iff.mp first
  obtain ⟨_, _, _, _, rfl⟩ := setting_eq_some_iff.mp second
  exact apart

end

/-! ### What is in the file -/

section

variable {room : Nat} {d : Disk} {path : Disk.Path} {e : Disk.Entry} {f : Disk.Fault}
  {bytes : List UInt8}

theorem find_of_find? (found : d.find? path = .ok (some e)) : d.find path = .ok e := by
  rw [Disk.find?] at found
  split at found
  · next leads =>
    obtain rfl := Option.some.inj (Except.ok.inj found)
    exact leads
  all_goals cases found

theorem find_of_find?_error (refused : d.find? path = .error f) : d.find path = .error f := by
  rw [Disk.find?] at refused
  split at refused
  case h_5 g _ _ _ led =>
    obtain rfl := Except.error.inj refused
    exact led
  all_goals cases refused

theorem exists_access_of_find? (refused : d.find? path = .error f) :
    ∃ flaw text, f = .access flaw text := by
  have led := find_of_find?_error refused
  rcases Disk.find_error led with ⟨rfl, _⟩ | access
  · rw [Disk.find?, led] at refused
    cases refused
  · exact access

theorem readBytes_of_find?_error (refused : d.find? path = .error f) :
    d.readBytes path = .error f := by
  rw [Disk.readBytes, find_of_find?_error refused]
  rfl

/-- What is there can be read, or it cannot be accessed. -/
theorem readBytes_of_find? (found : d.find? path = .ok (some e)) :
    (∃ bytes, d.readBytes path = .ok bytes) ∨
      ∃ flaw text, d.readBytes path = .error (.access flaw text) := by
  rw [Disk.readBytes, find_of_find? found]
  cases e with
  | directory => exact .inr ⟨_, _, rfl⟩
  | file bytes =>
    by_cases shut : d.isSealed path = true
    · exact .inr ⟨_, _, if_pos shut⟩
    · exact .inl ⟨bytes, if_neg shut⟩

theorem find?_of_readBytes (read : d.readBytes path = .ok bytes) :
    d.find? path = .ok (some (.file bytes)) := by
  obtain ⟨at_, located, held, _⟩ := Disk.readBytes_eq_ok_iff.mp read
  have found : d.find path = .ok (.file bytes) :=
    bind_eq_ok_iff.mpr ⟨at_, located, by rw [held]; rfl⟩
  rw [Disk.find?, found]

/-- Where there is no file, none is read. -/
theorem readBytes_of_missing (missing : d.find? path = .ok none) :
    ∃ f, d.readBytes path = .error f := by
  cases read : d.readBytes path with
  | error f => exact ⟨f, rfl⟩
  | ok bytes =>
    rw [find?_of_readBytes read] at missing
    cases missing

/-- A text in UTF-8 is read as JSON. What is no record counts as an empty one, and only what goes
beyond a limit is a fault. -/
theorem readFile_of_text {t : List Char}
    (held : d.readBytes path = .ok (Encoding.Utf8.encode t)) :
    ((∀ limit offset, jsonOf room t ≠ .error ⟨.beyond limit, offset⟩) ∧
      (readFile room d path).1 = .ok (stored room d path)) ∨
    ∃ limit offset, jsonOf room t = .error ⟨.beyond limit, offset⟩ ∧
      (readFile room d path).1 = .error (.beyond limit) := by
  have decoded : Encoding.Utf8.codec.decode .refuse 0 (Encoding.Utf8.encode t) = .ok t :=
    Encoding.Utf8.decode_eq_ok_iff.mpr rfl
  have read : Encoding.decodeAs (.utf8 false) "strict" (Encoding.Utf8.encode t) = .ok t :=
    Encoding.decodeAs_of_ok decoded
  rw [readFile, stored, find?_of_readBytes held]
  simp only [held, read, Encoding.Utf8.decode?, decoded, Except.toOption, Option.map_some, readText]
  cases jsonOf room t with
  | ok v =>
    refine .inl ⟨fun _ _ same => (by cases same), ?_⟩
    cases v with
    | record fields => cases fields <;> rfl
    | _ => rfl
  | error fault =>
    obtain ⟨flaw, offset⟩ := fault
    cases flaw with
    | beyond limit => exact .inr ⟨limit, offset, rfl, rfl⟩
    | _ => exact .inl ⟨fun _ _ same => (by cases same), rfl⟩

theorem readFile_of_legible (legible : Legible room d path) :
    (readFile room d path).1 = .ok (stored room d path) := by
  rcases legible with missing | ⟨t, held, inside⟩
  · obtain ⟨f, unread⟩ := readBytes_of_missing missing
    rw [readFile, stored, missing, unread]
  · rcases readFile_of_text held with ⟨_, read⟩ | ⟨limit, offset, outside, _⟩
    · exact read
    · exact absurd outside (inside limit offset)

theorem readFile_of_shut (shut : Shut d path) :
    stored room d path = [] ∧
      ∃ flaw text, (readFile room d path).1 = .error (.disk (.access flaw text)) := by
  obtain ⟨there, flaw, text, unread⟩ := shut
  rw [readFile, stored, unread]
  cases found : d.find? path with
  | error f =>
    rw [readBytes_of_find?_error found] at unread
    obtain rfl := Except.error.inj unread
    exact ⟨rfl, flaw, text, rfl⟩
  | ok entry? =>
    cases entry? with
    | none => exact absurd found there
    | some e => exact ⟨rfl, flaw, text, rfl⟩

/-- Bytes that are no text, and what goes beyond a limit, are faults, but not ones of access. -/
theorem readFile_of_bytes (held : d.readBytes path = .ok bytes)
    (illegible : ¬ Legible room d path) :
    ∃ f, (readFile room d path).1 = .error f ∧ ∀ flaw text, f ≠ .disk (.access flaw text) := by
  cases decoded : Encoding.Utf8.codec.decode .refuse 0 bytes with
  | error flaw =>
    have refused : Encoding.decodeAs (.utf8 false) "strict" bytes =
        .error (.undecodable flaw) := by
      simp [Encoding.decodeAs, Encoding.Scheme.decode, decoded]
    rw [readFile, find?_of_readBytes held]
    simp only [held, refused]
    exact ⟨_, rfl, fun flaw text same => by cases same⟩
  | ok t =>
    obtain rfl := Encoding.Utf8.decode_eq_ok_iff.mp decoded
    rcases readFile_of_text held with ⟨inside, _⟩ | ⟨limit, offset, _, read⟩
    · exact absurd (.inr ⟨t, held, inside⟩) illegible
    · exact ⟨_, read, fun flaw text same => by cases same⟩

theorem readFile_otherwise (illegible : ¬ Legible room d path) (open_ : ¬ Shut d path) :
    ∃ f, (readFile room d path).1 = .error f ∧ ∀ flaw text, f ≠ .disk (.access flaw text) := by
  cases found : d.find? path with
  | error f =>
    obtain ⟨flaw, text, rfl⟩ := exists_access_of_find? found
    have there : d.find? path ≠ .ok none := by simp [found]
    exact absurd ⟨there, flaw, text, readBytes_of_find?_error found⟩ open_
  | ok entry? =>
    cases entry? with
    | none => exact absurd (.inl found) illegible
    | some e =>
      rcases readBytes_of_find? found with ⟨bytes, held⟩ | unread
      · exact readFile_of_bytes held illegible
      · exact absurd ⟨by simp [found], unread⟩ open_

theorem nodup_stored (room : Nat) (d : Disk) (path : Disk.Path) :
    ((stored room d path).map (·.1)).Nodup := by
  rw [stored]
  split
  · split
    · next v read =>
      obtain ⟨t, _, read⟩ := Option.map_eq_some_iff.mp read
      cases held : v.fields? with
      | none => exact List.nodup_nil
      | some fields => exact Json.nodup_keys_of_readWithin read held
    · exact List.nodup_nil
  · exact List.nodup_nil

end

/-! ### Loading -/

section

variable {room : Nat} {d : Disk} {env : Variables} {path : Disk.Path}
  {overrides : List (String × Json)}

/-- The settings from a record that is read have every value where it is due. -/
theorem heeds_overridden {fields : List (String × Json)} (fileKeys : (fields.map (·.1)).Nodup)
    (keys : (overrides.map (·.1)).Nodup) (source source' : String) :
    Heeds env overrides fields
      (((initial.setNamed fields).override source overrides).1.override source'
        env.overrides).1 := by
  have unset {f} (none_ : ∀ w, ¬ env.Gives f w) : ∀ w, ¬ Asks env.overrides f w :=
    fun w asked => none_ w (asks_overrides.mp asked)
  refine ⟨fun given => ?_, fun none_ asked => ?_, fun none_ unasked held => ?_,
    fun none_ unasked unheld => ?_⟩
  · exact value_override (nodup_overrides env) (asks_overrides.mpr given)
  · rw [value_override_of_not_asks (unset none_), value_override keys asked]
  · rw [value_override_of_not_asks (unset none_), value_override_of_not_asks unasked,
      value_setNamed fileKeys held]
  · rw [value_override_of_not_asks (unset none_), value_override_of_not_asks unasked,
      value_setNamed_of_notMem unheld]
    rfl

theorem load_of_legible (env : Variables) (legible : Legible room d path)
    (keys : (overrides.map (·.1)).Nodup) :
    ∃ s, (loadWithin room d env path overrides).1 = .ok s ∧
      Heeds env overrides (stored room d path) s := by
  have read := readFile_of_legible legible
  refine ⟨_, ?_, heeds_overridden (nodup_stored room d path) keys "CLI" "environment"⟩
  rw [loadWithin]
  generalize readFile room d path = outcome at read ⊢
  obtain ⟨result, notices⟩ := outcome
  subst read
  rfl

theorem load_of_readFile_error (env : Variables) (overrides : List (String × Json)) {f : Fault}
    (refused : (readFile room d path).1 = .error f) :
    (loadWithin room d env path overrides).1 = .error f := by
  rw [loadWithin]
  generalize readFile room d path = outcome at refused ⊢
  obtain ⟨result, notices⟩ := outcome
  subst refused
  rfl

theorem loadOrInitial_of_load {result : Except Fault Settings}
    (loaded : (loadWithin room d env path overrides).1 = result)
    (accessed : ∀ flaw text, result ≠ .error (.disk (.access flaw text))) :
    (loadOrInitialWithin room d env path overrides).1 = result := by
  rw [loadOrInitialWithin]
  split
  · next flaw text notices whole =>
    rw [whole] at loaded
    exact absurd loaded.symm (accessed flaw text)
  · exact loaded

theorem loadOrInitial_of_legible (env : Variables) (legible : Legible room d path)
    (keys : (overrides.map (·.1)).Nodup) :
    ∃ s, (loadOrInitialWithin room d env path overrides).1 = .ok s ∧
      Heeds env overrides (stored room d path) s := by
  obtain ⟨s, loaded, heeds⟩ := load_of_legible env legible keys
  exact ⟨s, loadOrInitial_of_load loaded nofun, heeds⟩

/-- Without access to the file, what the environment and the caller say is not looked at. -/
theorem loadOrInitial_of_shut (env : Variables) (overrides : List (String × Json))
    (shut : Shut d path) :
    (loadOrInitialWithin room d env path overrides).1 = .ok initial := by
  obtain ⟨_, flaw, text, refused⟩ := readFile_of_shut shut
  have fault := load_of_readFile_error env overrides refused
  rw [loadOrInitialWithin]
  split
  · rfl
  · next other => exact (other flaw text _ (Prod.ext fault rfl)).elim

theorem loadOrInitial_otherwise (env : Variables) (overrides : List (String × Json))
    (illegible : ¬ Legible room d path) (open_ : ¬ Shut d path) :
    ∃ f, (loadOrInitialWithin room d env path overrides).1 = .error f := by
  obtain ⟨f, refused, other⟩ := readFile_otherwise illegible open_
  have fault := load_of_readFile_error env overrides refused
  refine ⟨f, loadOrInitial_of_load fault fun flaw text same => ?_⟩
  exact other flaw text (Except.error.inj same)

/-- Settings that have every value where it is due are had from a file that can be read as JSON, and
where the file cannot be accessed, only if the initial settings are due. -/
theorem loadOrInitial_heeds_iff (env : Variables) (keys : (overrides.map (·.1)).Nodup) :
    (∃ s, (loadOrInitialWithin room d env path overrides).1 = .ok s ∧
      Heeds env overrides (stored room d path) s) ↔
    Legible room d path ∨ Shut d path ∧ Heeds env overrides [] initial := by
  by_cases legible : Legible room d path
  · exact iff_of_true (loadOrInitial_of_legible env legible keys) (.inl legible)
  · by_cases shut : Shut d path
    · rw [loadOrInitial_of_shut env overrides shut, (readFile_of_shut shut).1]
      simp [legible, shut]
    · obtain ⟨f, refused⟩ := loadOrInitial_otherwise env overrides legible shut
      rw [refused]
      simp [legible, shut]

theorem loadOrInitial_heeds_at_broken_json :
    let d : Disk := ⟨[(["s.json"], .file (Encoding.Utf8.encode "[1".toList))], [], ⟨1, []⟩,
      ⟨1, []⟩, [], []⟩
    let env : Variables := [("TABBRIDGE_HOST", Text.points "0.0.0.0")]
    let overrides : List (String × Json) := [("host", .text "::1"), ("port", .int 8080)]
    ∃ s, (loadOrInitial d env ⟨1, ["s.json"]⟩ overrides).1 = .ok s ∧
      s.value .host = .text "0.0.0.0" ∧ s.value .port = .int 8080 := by
  intro d env overrides
  have legible : Legible Json.usualRoom d ⟨1, ["s.json"]⟩ := by
    refine .inr ⟨"[1".toList, by decide +kernel, fun limit offset read => ?_⟩
    have broken : jsonOf Json.usualRoom "[1".toList = .error ⟨.commaExpected, 2⟩ := by rfl
    rw [broken] at read
    cases read
  have keys : (overrides.map (·.1)).Nodup := by decide
  have given : env.overrides = [("host", .text "0.0.0.0")] := by rfl
  have host : env.Gives .host (.text "0.0.0.0") := by
    rw [← mem_overrides, given]
    exact List.mem_cons_self
  have noPort (v : Json) : ¬ env.Gives .port v := by
    rw [← mem_overrides, given]
    simp [Field.name]
  have asked : Asks overrides .port (.int 8080) :=
    ⟨List.mem_cons_of_mem _ List.mem_cons_self, nofun⟩
  obtain ⟨s, loaded, heeds⟩ := (loadOrInitial_heeds_iff env keys).mpr (.inl legible)
  exact ⟨s, loaded, heeds.environment host, heeds.caller noPort asked⟩

/-- What goes beyond a limit of the reader is a fault. -/
theorem readFile_of_beyond {t : List Char} {limit : Json.Limit} {offset : Nat}
    (held : d.readBytes path = .ok (Encoding.Utf8.encode t))
    (beyond : jsonOf room t = .error ⟨.beyond limit, offset⟩) :
    (readFile room d path).1 = .error (.beyond limit) := by
  rcases readFile_of_text held with ⟨inside, _⟩ | ⟨limit', offset', beyond', refused⟩
  · exact absurd beyond (inside limit offset)
  · rw [beyond] at beyond'
    cases beyond'
    exact refused

theorem loadOrInitial_of_beyond {t : List Char} {limit : Json.Limit} {offset : Nat}
    (env : Variables) (overrides : List (String × Json))
    (held : d.readBytes path = .ok (Encoding.Utf8.encode t))
    (beyond : jsonOf room t = .error ⟨.beyond limit, offset⟩) :
    (loadOrInitialWithin room d env path overrides).1 = .error (.beyond limit) :=
  loadOrInitial_of_load (load_of_readFile_error env overrides (readFile_of_beyond held beyond)) nofun

theorem jsonOf_nested (room : Nat) :
    jsonOf room (List.replicate (room + 1) '[') = .error ⟨.beyond .nesting, room⟩ := by
  have free : '\r' ∉ List.replicate (room + 1) '[' := by simp [List.mem_replicate]
  rw [jsonOf_eq_readWithin free]
  simpa using Json.readWithin_nested room []

theorem readBytes_soleFile (bytes : List UInt8) :
    Disk.readBytes ⟨[(["s.json"], .file bytes)], [], ⟨1, []⟩, ⟨1, []⟩, [], []⟩ ⟨1, ["s.json"]⟩ =
      .ok bytes := by rfl

/-- A directory in the file's place loses what the environment says, and from bytes that are no text
there are no settings, nor from a text with more lists within one another than there is room for. -/
theorem settings_lost_at_directory_and_bytes :
    let env : Variables := [("TABBRIDGE_HOST", Text.points "0.0.0.0")]
    let path : Disk.Path := ⟨1, ["s.json"]⟩
    let around (e : Disk.Entry) : Disk := ⟨[(["s.json"], e)], [], ⟨1, []⟩, ⟨1, []⟩, [], []⟩
    let nested := Encoding.Utf8.encode (List.replicate (Json.usualRoom + 1) '[')
    ∀ e ∈ [.directory, .file [0xFF], .file nested], ¬ ∃ s,
      (loadOrInitial (around e) env path [("port", .int 8080)]).1 = .ok s ∧
        Heeds env [("port", .int 8080)] (stored Json.usualRoom (around e) path) s := by
  intro env path around nested
  have host : env.Gives .host (.text "0.0.0.0") :=
    ⟨"TABBRIDGE_HOST", .text, Text.points "0.0.0.0", List.mem_cons_self, rfl, rfl⟩
  rw [List.forall_mem_cons, List.forall_mem_cons, List.forall_mem_singleton]
  refine ⟨?directory, ?bytes, ?nested⟩
  case directory =>
    rintro ⟨s, loaded, heeds⟩
    have shut : Shut (around .directory) path :=
      ⟨by decide +kernel, .isDirectory, "/s.json", by decide +kernel⟩
    rw [loadOrInitial, loadOrInitial_of_shut env _ shut] at loaded
    obtain rfl := Except.ok.inj loaded
    exact absurd (heeds.environment host) (by simp [initial, Field.initial])
  case bytes =>
    rintro ⟨s, loaded, heeds⟩
    have refused : (loadOrInitial (around (.file [0xFF])) env path [("port", .int 8080)]).1.isOk =
        false := by decide +kernel
    rw [loaded] at refused
    cases refused
  case nested =>
    rintro ⟨s, loaded, heeds⟩
    have held : (around (.file nested)).readBytes path = .ok nested := readBytes_soleFile nested
    rw [loadOrInitial, loadOrInitial_of_beyond env _ held (jsonOf_nested Json.usualRoom)] at loaded
    cases loaded

end

end OpenDocs.Settings
