import OpenDocs.Proofs.Disk.Spelling
import OpenDocs.Proofs.Settings.Startup

/-!
# Settings in layers

Each field has its value by itself, from the first that has one for it: its variable in the
environment, the caller, the file, and the initial settings. What is said of another field, under an
unknown name or with a text that is no integer makes no difference to it. A file that is a text may
hold anything but a whole number of too many digits, or more lists and records within one another
than the reader has room for, which leaves all fields without a value.
-/

namespace OpenDocs.Settings

/-- The variable that sets a field. -/
def Field.setBy? : Field → Option String
  | host => some "TABBRIDGE_HOST"
  | port => some "TABBRIDGE_PORT"
  | corsOrigins => some "TABBRIDGE_CORS_ORIGINS"
  | corsMethods | corsHeaders => none
  | assetsDir => some "TABBRIDGE_ASSETS_DIR"
  | diffDir => some "TABBRIDGE_DIFF_DIR"
  | textSource => some "TABBRIDGE_TEXT_SOURCE"
  | maxSymbolDepth => some "TABBRIDGE_MAX_SYMBOL_DEPTH"
  | debugLogging => some "TABBRIDGE_DEBUG_LOGGING"
  | logDir => some "TABBRIDGE_LOG_DIR"

/-- A field takes a value from the text of its variable: the text as it is, whether it is a word for
yes, the integer it spells, or what stands between its commas, without the blanks around it and
without what is then empty. A torn text is no word and no integer. -/
def Field.Takes (text : List Text.Point) (v : Json) : Field → Prop
  | host | assetsDir | diffDir | textSource | logDir => v = .ofPoints text
  | debugLogging => ∃ yes : Bool, (yes = true ↔
      ∃ s, Text.whole? text = some s ∧ Text.toLower (stripped s) ∈ trueWords) ∧ v = .bool yes
  | port | maxSymbolDepth => ∃ s n, Text.whole? text = some s ∧ Text.readInteger? s = some n ∧
      v = .int n
  | corsOrigins => ∃ parts, parts ≠ [] ∧ Text.join (.char ',') parts = text ∧
      (∀ part ∈ parts, .char ',' ∉ part) ∧
      v = .list (((parts.map (Text.trimPoints Text.isBlank)).filter (· ≠ [])).map .ofPoints)
  | corsMethods | corsHeaders => False

/-- The variable of a field is set to a text from which the field takes the value. -/
def Variables.Says (env : Variables) (f : Field) (v : Json) : Prop :=
  ∃ variable_ text, f.setBy? = some variable_ ∧ env.lookup variable_ = some text ∧
    f.Takes text v

/-- The caller gives a field a value other than null. -/
def Wants (overrides : List (String × Json)) (f : Field) (v : Json) : Prop :=
  overrides.lookup f.name = some v ∧ v ≠ .null

/-- The value that a field should have is that of the first layer that has one for it. -/
inductive Due (env : Variables) (overrides stored : List (String × Json)) (f : Field) :
    Json → Prop
  | environment {v : Json} : env.Says f v → Due env overrides stored f v
  | caller {v : Json} : (∀ w, ¬ env.Says f w) → Wants overrides f v → Due env overrides stored f v
  | file {v : Json} : (∀ w, ¬ env.Says f w) → (∀ w, ¬ Wants overrides f w) →
      stored.lookup f.name = some v → Due env overrides stored f v
  | initial : (∀ w, ¬ env.Says f w) → (∀ w, ¬ Wants overrides f w) →
      stored.lookup f.name = none → Due env overrides stored f f.initial

/-- The layers of two runs say the same of a field. -/
structure SameFor (f : Field) (env env' : Variables)
    (overrides overrides' stored stored' : List (String × Json)) : Prop where
  environment : ∀ v, env.Says f v ↔ env'.Says f v
  caller : ∀ v, Wants overrides f v ↔ Wants overrides' f v
  file : stored.lookup f.name = stored'.lookup f.name

/-- There is no file, or it can be opened and holds a text in UTF-8. -/
def IsText (d : Disk) (path : Disk.Path) : Prop :=
  d.find? path = .ok none ∨ ∃ t, d.readBytes path = .ok (Encoding.Utf8.encode t)

/-- Reading the file as JSON stops at what is beyond a limit of the reader: a whole number of too
many digits, or a list or record within too many others. -/
def StopsAt (room : Nat) (d : Disk) (path : Disk.Path) (limit : Json.Limit) : Prop :=
  ∃ t offset, d.readBytes path = .ok (Encoding.Utf8.encode t) ∧
    jsonOf room t = .error ⟨.beyond limit, offset⟩

/-! ### The variables and the fields they set -/

section

variable {f : Field} {v : Json} {text : List Text.Point} {env : Variables}

theorem setBy?_eq_some_iff {variable_ : String} : f.setBy? = some variable_ ↔
    ∃ reading, (variable_, f, reading) ∈ environmentVariables := by
  cases f <;> simp [Field.setBy?, environmentVariables, eq_comm]

theorem takes_text_iff : v = .ofPoints text ↔ Reading.text.read? text = some v := by
  rw [Reading.read?, Option.some_inj, eq_comm]

theorem takes_integer_iff :
    (∃ s n, Text.whole? text = some s ∧ Text.readInteger? s = some n ∧ v = .int n) ↔
      Reading.integer.read? text = some v := by
  rw [Reading.read?, Option.map_eq_some_iff]
  simp only [Option.bind_eq_some_iff, @eq_comm Json]
  constructor
  · rintro ⟨s, n, whole, spelled, same⟩
    exact ⟨n, ⟨s, whole, spelled⟩, same⟩
  · rintro ⟨n, ⟨s, whole, spelled⟩, same⟩
    exact ⟨s, n, whole, spelled, same⟩

theorem takes_truth_iff :
    Field.debugLogging.Takes text v ↔ Reading.truth.read? text = some v := by
  have isWord : ((Text.whole? text).map fun s =>
      trueWords.contains (Text.toLower (stripped s))).getD false = true ↔
      ∃ s, Text.whole? text = some s ∧ Text.toLower (stripped s) ∈ trueWords := by
    cases Text.whole? text <;> simp
  rw [Reading.read?, Option.some_inj, Field.Takes]
  constructor
  · rintro ⟨yes, listed, rfl⟩
    rw [Bool.eq_iff_iff.mpr (isWord.trans listed.symm)]
  · rintro rfl
    exact ⟨_, isWord, rfl⟩

theorem takes_items_iff :
    Field.corsOrigins.Takes text v ↔ Reading.items.read? text = some v := by
  have filled (parts : List (List Text.Point)) :
      parts.filter (!·.isEmpty) = parts.filter (· ≠ []) := by
    refine List.filter_congr fun part _ => ?_
    cases part <;> simp
  rw [Reading.read?, Option.some_inj, filled, Field.Takes]
  constructor
  · rintro ⟨parts, some_, joined, free, rfl⟩
    rw [← joined, Text.cut_join some_ free]
  · rintro rfl
    exact ⟨_, Text.cut_ne_nil _ _, Text.join_cut _ _, fun _ => Text.notMem_of_mem_cut, rfl⟩

theorem takes_iff {variable_ : String} {reading : Reading}
    (listed : (variable_, f, reading) ∈ environmentVariables) :
    f.Takes text v ↔ reading.read? text = some v := by
  simp only [environmentVariables, List.mem_cons, Prod.mk.injEq, List.not_mem_nil, or_false]
    at listed
  rcases listed with ⟨_, rfl, rfl⟩ | ⟨_, rfl, rfl⟩ | ⟨_, rfl, rfl⟩ | ⟨_, rfl, rfl⟩ | ⟨_, rfl, rfl⟩ |
    ⟨_, rfl, rfl⟩ | ⟨_, rfl, rfl⟩ | ⟨_, rfl, rfl⟩ | ⟨_, rfl, rfl⟩
  iterate 5 exact takes_text_iff
  · exact takes_truth_iff
  iterate 2 exact takes_integer_iff
  · exact takes_items_iff

theorem says_iff_gives : env.Says f v ↔ env.Gives f v := by
  constructor
  · rintro ⟨variable_, text, named, set, takes⟩
    obtain ⟨reading, listed⟩ := setBy?_eq_some_iff.mp named
    exact ⟨variable_, reading, text, listed, set, (takes_iff listed).mp takes⟩
  · rintro ⟨variable_, reading, text, listed, set, read⟩
    exact ⟨variable_, text, setBy?_eq_some_iff.mpr ⟨reading, listed⟩, set,
      (takes_iff listed).mpr read⟩

end

/-! ### What the caller and the file hold -/

section

variable {d : Disk} {env : Variables} {path : Disk.Path}
  {overrides stored : List (String × Json)} {s : Settings} {f : Field} {v : Json}

theorem lookup_eq_some_iff_mem {values : List (String × Json)} {name : String}
    (distinct : (values.map (·.1)).Nodup) : values.lookup name = some v ↔ (name, v) ∈ values := by
  induction values with
  | nil => simp
  | cons e values ih =>
    rw [List.map_cons, List.nodup_cons] at distinct
    rw [List.lookup_cons, List.mem_cons]
    by_cases same : name = e.1
    · have later : (name, v) ∉ values := fun held =>
        distinct.1 (List.mem_map.mpr ⟨_, held, same⟩)
      subst same
      simp [later, Prod.ext_iff, eq_comm]
    · simp [beq_false_of_ne same, ih distinct.2, Prod.ext_iff, same]

theorem wants_iff_asks (keys : (overrides.map (·.1)).Nodup) :
    Wants overrides f v ↔ Asks overrides f v := by
  rw [Wants, Asks, lookup_eq_some_iff_mem keys]

/-- The value that is due is the one that the field has. -/
theorem Heeds.value_eq (heeds : Heeds env overrides stored s) (keys : (overrides.map (·.1)).Nodup)
    (fileKeys : (stored.map (·.1)).Nodup) (due : Due env overrides stored f v) :
    s.value f = v := by
  cases due with
  | environment said => exact heeds.environment (says_iff_gives.mp said)
  | caller unsaid wants =>
    simp only [says_iff_gives] at unsaid
    exact heeds.caller unsaid ((wants_iff_asks keys).mp wants)
  | file unsaid unwanted held =>
    simp only [says_iff_gives] at unsaid
    simp only [wants_iff_asks keys] at unwanted
    exact heeds.file unsaid unwanted ((lookup_eq_some_iff_mem fileKeys).mp held)
  | initial unsaid unwanted unheld =>
    simp only [says_iff_gives] at unsaid
    simp only [wants_iff_asks keys] at unwanted
    refine heeds.initial unsaid unwanted fun named => ?_
    obtain ⟨⟨_, w⟩, held, rfl⟩ := List.mem_map.mp named
    rw [(lookup_eq_some_iff_mem fileKeys).mpr held] at unheld
    cases unheld

/-- Some value is due to every field. -/
theorem exists_due (env : Variables) (overrides stored : List (String × Json)) (f : Field) :
    ∃ v, Due env overrides stored f v := by
  by_cases said : ∃ v, env.Says f v
  · obtain ⟨v, given⟩ := said
    exact ⟨v, .environment given⟩
  · have unsaid := not_exists.mp said
    by_cases wanted : ∃ v, Wants overrides f v
    · obtain ⟨v, wants⟩ := wanted
      exact ⟨v, .caller unsaid wants⟩
    · have unwanted := not_exists.mp wanted
      cases held : stored.lookup f.name with
      | some v => exact ⟨v, .file unsaid unwanted held⟩
      | none => exact ⟨_, .initial unsaid unwanted held⟩

theorem Heeds.value_eq_iff (heeds : Heeds env overrides stored s)
    (keys : (overrides.map (·.1)).Nodup) (fileKeys : (stored.map (·.1)).Nodup) :
    s.value f = v ↔ Due env overrides stored f v := by
  constructor
  · rintro rfl
    obtain ⟨v, due⟩ := exists_due env overrides stored f
    exact heeds.value_eq keys fileKeys due ▸ due
  · exact heeds.value_eq keys fileKeys

theorem SameFor.due {env' : Variables} {overrides' stored' : List (String × Json)}
    (same : SameFor f env env' overrides overrides' stored stored')
    (due : Due env overrides stored f v) : Due env' overrides' stored' f v := by
  cases due with
  | environment said => exact .environment ((same.environment v).mp said)
  | caller unsaid wants =>
    simp only [same.environment] at unsaid
    exact .caller unsaid ((same.caller v).mp wants)
  | file unsaid unwanted held =>
    simp only [same.environment, same.caller] at unsaid unwanted
    exact .file unsaid unwanted (same.file ▸ held)
  | initial unsaid unwanted unheld =>
    simp only [same.environment, same.caller] at unsaid unwanted
    exact .initial unsaid unwanted (same.file ▸ unheld)

end

/-! ### Loading -/

section

variable {room : Nat} {d : Disk} {env : Variables} {path : Disk.Path}
  {overrides : List (String × Json)}

theorem readFile_of_stopsAt {limit : Json.Limit} (stops : StopsAt room d path limit) :
    (readFile room d path).1 = .error (.beyond limit) := by
  obtain ⟨t, offset, found, beyond⟩ := stops
  exact readFile_of_beyond found beyond

theorem IsText.legible (text : IsText d path) (inside : ∀ limit, ¬ StopsAt room d path limit) :
    Legible room d path := by
  rcases text with missing | ⟨t, found⟩
  · exact .inl missing
  · exact .inr ⟨t, found, fun limit offset beyond => inside limit ⟨t, offset, found, beyond⟩⟩

/-- From a file that is a text, every field gets the value that is due to it. -/
theorem load_of_isText (env : Variables) (text : IsText d path)
    (keys : (overrides.map (·.1)).Nodup) (inside : ∀ limit, ¬ StopsAt room d path limit) :
    ∃ s, (loadWithin room d env path overrides).1 = .ok s ∧
      ∀ f v, s.value f = v ↔ Due env overrides (stored room d path) f v := by
  obtain ⟨s, loaded, heeds⟩ := load_of_legible env (text.legible inside) keys
  exact ⟨s, loaded, fun f v => heeds.value_eq_iff keys (nodup_stored room d path)⟩

theorem value_eq_iff_of_load {s : Settings} {f : Field} {v : Json} (text : IsText d path)
    (keys : (overrides.map (·.1)).Nodup) (loaded : (loadWithin room d env path overrides).1 = .ok s) :
    s.value f = v ↔ Due env overrides (stored room d path) f v := by
  have inside (limit : Json.Limit) : ¬ StopsAt room d path limit := by
    intro stops
    rw [load_of_readFile_error env overrides (readFile_of_stopsAt stops)] at loaded
    cases loaded
  obtain ⟨s', loaded', values⟩ := load_of_isText env text keys inside
  obtain rfl := Except.ok.inj (loaded.symm.trans loaded')
  exact values f v

/-- A file that is a text gives settings in which every field has just the value that is due to it,
unless reading it goes beyond a limit, whatever room there is. A field has the same value in all
runs whose layers say the same of it. -/
theorem load_layers (room : Nat) (env : Variables) (text : IsText d path)
    (keys : (overrides.map (·.1)).Nodup) :
    (∀ limit, StopsAt room d path limit →
      (loadWithin room d env path overrides).1 = .error (.beyond limit)) ∧
    ((∀ limit, ¬ StopsAt room d path limit) →
      ∃ s, (loadWithin room d env path overrides).1 = .ok s ∧
        ∀ f v, s.value f = v ↔ Due env overrides (stored room d path) f v) ∧
    ∀ room' d' env' path' overrides', IsText d' path' → (overrides'.map (·.1)).Nodup →
      ∀ s s', (loadWithin room d env path overrides).1 = .ok s →
        (loadWithin room' d' env' path' overrides').1 = .ok s' →
        ∀ f, SameFor f env env' overrides overrides' (stored room d path) (stored room' d' path') →
          s'.value f = s.value f := by
  refine ⟨fun limit stops => load_of_readFile_error env overrides (readFile_of_stopsAt stops),
    load_of_isText env text keys, ?_⟩
  intro room' d' env' path' overrides' text' keys' s s' loaded loaded' f same
  have due := (value_eq_iff_of_load text keys loaded).mp (rfl : s.value f = s.value f)
  exact (value_eq_iff_of_load text' keys' loaded').mpr (same.due due)

theorem jsonOf_indented {v : Json} (plain : Json.Plain room v) :
    jsonOf room v.indented.toList = .ok v := by
  have free : '\r' ∉ v.indented.toList := plain.return_notMem 0
  rw [jsonOf_eq_readWithin free, String.ofList_toList]
  exact plain.read_indented

/-- A file that holds a record as it is printed. -/
theorem stored_of_printed {fields : List (String × Json)}
    (held : d.readBytes path = .ok (Encoding.Utf8.encode (Json.record fields).indented.toList))
    (plain : Json.Plain room (.record fields)) : stored room d path = fields := by
  rw [stored, held]
  simp only [Encoding.Utf8.decode?_encode, Option.map_some, jsonOf_indented plain]
  rfl

theorem not_stopsAt_of_printed {v : Json}
    (held : d.readBytes path = .ok (Encoding.Utf8.encode v.indented.toList))
    (plain : Json.Plain room v) (limit : Json.Limit) : ¬ StopsAt room d path limit := by
  rintro ⟨t, offset, held', beyond⟩
  have same := Encoding.Utf8.encode_injective (Except.ok.inj (held.symm.trans held'))
  rw [← same, jsonOf_indented plain] at beyond
  cases beyond

/-- A variable that is set to nothing counts, one that is no integer does not, and a null counts in
the file but not from the caller. -/
theorem load_layers_with_nothing_and_null :
    let fields : List (String × Json) := [("port", .null), ("other", .int 1)]
    let file := Encoding.Utf8.encode (Json.record fields).indented.toList
    let d : Disk := ⟨[(["s.json"], .file file)], [], ⟨1, []⟩, ⟨1, []⟩, [], []⟩
    let path : Disk.Path := ⟨1, ["s.json"]⟩
    let env : Variables := [("TABBRIDGE_HOST", []), ("TABBRIDGE_PORT", Text.points "-")]
    let overrides : List (String × Json) := [("host", .text "::1"), ("port", .null)]
    ∃ s s', (load d env path overrides).1 = .ok s ∧ (load d [] path []).1 = .ok s' ∧
      s.value .host = .text "" ∧ s.value .port = .null ∧ s'.value .port = .null := by
  intro fields file d path env overrides
  have distinct : (fields.map (·.1)).Nodup := by decide
  have plain : Json.Plain (989 + 1) (Json.record fields) := by
    refine .record fields distinct fun e held => ?_
    rcases List.mem_cons.mp held with rfl | later
    · exact .null
    · obtain rfl := List.mem_singleton.mp later
      exact .int 1 (by decide)
  have found : d.readBytes path = .ok file := readBytes_soleFile file
  have held : stored Json.usualRoom d path = fields := stored_of_printed found plain
  have text : IsText d path := .inr ⟨_, found⟩
  have inside := not_stopsAt_of_printed found plain
  have unsaid (v : Json) : ¬ env.Says .port v := by
    rintro ⟨_, text, ⟨⟩, set, s, n, whole, spelled, _⟩
    obtain rfl : Text.points "-" = text := Option.some.inj set
    rw [Text.whole?_points] at whole
    obtain rfl := Option.some.inj whole
    have none_ : Text.readInteger? "-" = none := rfl
    rw [none_] at spelled
    cases spelled
  have unwanted (v : Json) : ¬ Wants overrides .port v := by
    rintro ⟨⟨⟩, filled⟩
    exact filled rfl
  have silent (v : Json) : ¬ Variables.Says [] .port v := by
    rintro ⟨_, _, _, ⟨⟩, _⟩
  have unasked (v : Json) : ¬ Wants [] .port v := by
    rintro ⟨⟨⟩, _⟩
  have keys : (overrides.map (·.1)).Nodup := by decide
  have noKeys : (([] : List (String × Json)).map (·.1)).Nodup := List.nodup_nil
  obtain ⟨_, loads, same⟩ := load_layers Json.usualRoom env text keys
  obtain ⟨s, loaded, values⟩ := loads inside
  obtain ⟨s', loaded', _⟩ := (load_layers Json.usualRoom [] text noKeys).2.1 inside
  have nothing : Field.host.Takes [] (.text "") := (Json.ofPoints_points "").symm
  have host : s.value .host = .text "" :=
    (values .host _).mpr (.environment ⟨"TABBRIDGE_HOST", [], rfl, rfl, nothing⟩)
  have port : s.value .port = .null :=
    (values .port _).mpr (.file unsaid unwanted (by rw [held]; rfl))
  refine ⟨s, s', loaded, loaded', host, port, ?_⟩
  rw [← port]
  exact same Json.usualRoom d [] path [] text noKeys s s' loaded loaded' .port
    ⟨fun v => iff_of_false (unsaid v) (silent v), fun v => iff_of_false (unwanted v) (unasked v), rfl⟩

/-- A file of one whole number, with one digit too many, gives no settings at all, and nor does one of
lists within one another, with one list too many. -/
theorem load_fails_at_long_number :
    let long := (Json.int (10 ^ Json.maxDigits : Nat)).indented.toList
    let nested := List.replicate (Json.usualRoom + 1) '['
    let around (t : List Char) : Disk :=
      ⟨[(["s.json"], .file (Encoding.Utf8.encode t))], [], ⟨1, []⟩, ⟨1, []⟩, [], []⟩
    let path : Disk.Path := ⟨1, ["s.json"]⟩
    ∀ t ∈ [long, nested], IsText (around t) path ∧
      ¬ ∃ s, (load (around t) [] path [("port", .int 8080)]).1 = .ok s ∧
        ∀ f, Due [] [("port", .int 8080)] (stored Json.usualRoom (around t) path) f (s.value f) := by
  intro long nested around path
  have found (t : List Char) : (around t).readBytes path = .ok (Encoding.Utf8.encode t) :=
    readBytes_soleFile _
  have fails (t : List Char) (limit : Json.Limit) (offset : Nat)
      (beyond : jsonOf Json.usualRoom t = .error ⟨.beyond limit, offset⟩) :
      IsText (around t) path ∧ ¬ ∃ s, (load (around t) [] path [("port", .int 8080)]).1 = .ok s ∧
        ∀ f, Due [] [("port", .int 8080)] (stored Json.usualRoom (around t) path) f
          (s.value f) := by
    have stops : StopsAt Json.usualRoom (around t) path limit := ⟨t, offset, found t, beyond⟩
    refine ⟨.inr ⟨t, found t⟩, ?_⟩
    rintro ⟨s, loaded, _⟩
    rw [load, load_of_readFile_error _ _ (readFile_of_stopsAt stops)] at loaded
    cases loaded
  rw [List.forall_mem_cons, List.forall_mem_singleton]
  constructor
  · have digits : Json.maxDigits < (Nat.toDigits 10 (10 ^ Json.maxDigits)).length := by
      rw [← Nat.not_le, Nat.length_toDigits_le_iff (by decide) (by decide)]
      exact lt_irrefl _
    have free : '\r' ∉ long := Json.return_notMem_toString _
    refine fails long .digits 0 ?_
    rw [jsonOf_eq_readWithin free, String.ofList_toList]
    exact Json.read_indented_of_long digits
  · exact fails nested .nesting Json.usualRoom (jsonOf_nested Json.usualRoom)

end

end OpenDocs.Settings
