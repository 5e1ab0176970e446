import OpenDocs.Proofs.Json.Numbers

/-!
# Values are read as they are printed

Each item of a list or a record stands on a line of its own, and the reader passes over the blanks
before it. It is never out of fuel: that is counted by values, of which each takes a character at
least. Values that are nested too deep for its room are not read again.
-/

namespace OpenDocs.Json

variable {n room : Nat} {rest : List Char}

/-- Nothing is lost of such a value when it is printed and read with so much room: it has no
fractions, no whole numbers of too many digits, no lone surrogates and no key twice in a record. -/
inductive Plain : Nat → Json → Prop
  | null {room : Nat} : Plain room .null
  | bool {room : Nat} (b : Bool) : Plain room (.bool b)
  | int {room : Nat} (z : Int) (short : (Nat.toDigits 10 z.natAbs).length ≤ maxDigits) :
      Plain room (.int z)
  | text {room : Nat} (s : String) : Plain room (.text s)
  | list {room : Nat} (items : List Json) (plain : ∀ v ∈ items, Plain room v) :
      Plain (room + 1) (.list items)
  | record {room : Nat} (fields : List (String × Json)) (distinct : (fields.map (·.1)).Nodup)
      (plain : ∀ e ∈ fields, Plain room e.2) : Plain (room + 1) (.record fields)

def itemText (indent : Nat) (v : Json) : List Char :=
  (newline indent).toList ++ (indentedAt indent v).toList

def fieldText (indent : Nat) (e : String × Json) : List Char :=
  (newline indent).toList ++
    ((quoted e.1).toList ++ ':' :: ' ' :: (indentedAt indent e.2).toList)

theorem toList_newline (indent : Nat) :
    (newline indent).toList = '\n' :: List.replicate indent ' ' := by
  simp [newline]

theorem toList_joined (x : String) (xs : List String) :
    (",".intercalate (x :: xs)).toList = x.toList ++ xs.flatMap fun y => ',' :: y.toList := by
  rw [String.toList_intercalate]
  induction xs generalizing x with
  | nil => simp
  | cons y ys ih =>
    rw [List.map_cons, List.map_cons, List.intercalate_cons_cons, ← List.map_cons, ih,
      List.flatMap_cons, List.append_assoc]
    rfl

theorem indentedItems_eq_map (indent : Nat) (vs : List Json) :
    indentedItems indent vs = vs.map fun v => newline indent ++ indentedAt indent v := by
  induction vs with
  | nil => rw [indentedItems, List.map_nil]
  | cons v vs ih => rw [indentedItems, ih, List.map_cons]

theorem indentedFields_eq_map (indent : Nat) (fields : List (String × Json)) :
    indentedFields indent fields =
      fields.map fun e => newline indent ++ quoted e.1 ++ ": " ++ indentedAt indent e.2 := by
  induction fields with
  | nil => rw [indentedFields, List.map_nil]
  | cons e fields ih => rw [indentedFields, ih, List.map_cons]

/-! ### The text of lists and records -/

theorem items_append (indent : Nat) (v : Json) (vs : List Json) (rest : List Char) :
    (v :: vs).flatMap (',' :: itemText indent ·) ++ rest =
      ',' :: ((newline indent).toList ++ ((indentedAt indent v).toList ++
        (vs.flatMap (',' :: itemText indent ·) ++ rest))) := by
  simp [itemText]

theorem fields_append (indent : Nat) (e : String × Json) (fields : List (String × Json))
    (rest : List Char) : (e :: fields).flatMap (',' :: fieldText indent ·) ++ rest =
      ',' :: ((newline indent).toList ++ ((quoted e.1).toList ++ ':' :: ' ' ::
        ((indentedAt indent e.2).toList ++
          (fields.flatMap (',' :: fieldText indent ·) ++ rest)))) := by
  simp [fieldText]

theorem lt_length_itemText (indent : Nat) (v : Json) :
    (indentedAt indent v).toList.length < (itemText indent v).length := by
  simp only [itemText, toList_newline, List.length_append, List.length_cons]
  omega

theorem lt_length_fieldText (indent : Nat) (e : String × Json) :
    (indentedAt indent e.2).toList.length < (fieldText indent e).length := by
  simp only [fieldText, toList_newline, List.length_append, List.length_cons]
  omega

theorem list_append (indent : Nat) (v : Json) (vs : List Json) (rest : List Char) :
    (indentedAt indent (.list (v :: vs))).toList ++ rest =
      '[' :: ((newline (indent + 2)).toList ++ ((indentedAt (indent + 2) v).toList ++
        (vs.flatMap (',' :: itemText (indent + 2) ·) ++
          ((newline indent).toList ++ ']' :: rest)))) := by
  have printed : indentedAt indent (.list (v :: vs)) = "[" ++
      ",".intercalate (indentedItems (indent + 2) (v :: vs)) ++ newline indent ++ "]" := by
    rw [indentedAt]
    nofun
  rw [printed, indentedItems_eq_map, List.map_cons]
  simp only [String.toList_append, toList_joined, List.flatMap_map, itemText, List.append_assoc]
  rfl

theorem record_append (indent : Nat) (e : String × Json) (fields : List (String × Json))
    (rest : List Char) : (indentedAt indent (.record (e :: fields))).toList ++ rest =
      '{' :: ((newline (indent + 2)).toList ++ ((quoted e.1).toList ++ ':' :: ' ' ::
        ((indentedAt (indent + 2) e.2).toList ++
          (fields.flatMap (',' :: fieldText (indent + 2) ·) ++
            ((newline indent).toList ++ '}' :: rest))))) := by
  have printed : indentedAt indent (.record (e :: fields)) = "\x7b" ++
      ",".intercalate (indentedFields (indent + 2) (e :: fields)) ++ newline indent ++ "\x7d" := by
    rw [indentedAt]
    nofun
  rw [printed, indentedFields_eq_map, List.map_cons]
  simp only [String.toList_append, toList_joined, List.flatMap_map, fieldText, List.append_assoc]
  rfl

/-! ### How values begin and end -/

/-- A character that a value may begin with. It is no blank, closes no list and is no mark. -/
structure Opens (c : Char) : Prop where
  solid : isBlank c = false
  noClose : c ≠ ']'
  noMark : c ≠ '\uFEFF'

theorem opens_digit {c : Char} (digit : c.isDigit = true) : Opens c := by
  have apart {x : Char} (other : x.isDigit = false) : c ≠ x := ne_of_isDigit digit other
  exact ⟨by simp [isBlank, apart], apart rfl, apart (by decide)⟩

theorem exists_indentedAt (indent : Nat) {v : Json} (plain : Plain room v) :
    ∃ c cs, (indentedAt indent v).toList = c :: cs ∧ Opens c := by
  have opens {c : Char} (solid : isBlank c = false ∧ c ≠ ']' ∧ c ≠ '\uFEFF') : Opens c :=
    ⟨solid.1, solid.2.1, solid.2.2⟩
  cases plain with
  | null => exact ⟨'n', ['u', 'l', 'l'], by rw [indentedAt]; rfl, opens (by decide)⟩
  | bool b =>
    cases b with
    | false => exact ⟨'f', ['a', 'l', 's', 'e'], by rw [indentedAt]; rfl, opens (by decide)⟩
    | true => exact ⟨'t', ['r', 'u', 'e'], by rw [indentedAt]; rfl, opens (by decide)⟩
  | int z short =>
    obtain ⟨c, cs, text, first⟩ := exists_toString_int z
    refine ⟨c, cs, by rw [indentedAt]; exact text, ?_⟩
    rcases first with rfl | digit
    · exact opens (by decide)
    · exact opens_digit digit
  | text s => exact ⟨'"', _, by rw [indentedAt]; exact toList_quoted s, opens (by decide)⟩
  | list items plain =>
    cases items with
    | nil => exact ⟨'[', [']'], by rw [indentedAt]; rfl, opens (by decide)⟩
    | cons v vs =>
      have text := list_append indent v vs []
      rw [List.append_nil] at text
      exact ⟨'[', _, text, opens (by decide)⟩
  | record fields distinct plain =>
    cases fields with
    | nil => exact ⟨'{', ['}'], by rw [indentedAt]; rfl, opens (by decide)⟩
    | cons e fields =>
      have text := record_append indent e fields []
      rw [List.append_nil] at text
      exact ⟨'{', _, text, opens (by decide)⟩

theorem ends_newline (indent : Nat) (rest : List Char) :
    Ends ((newline indent).toList ++ rest) := by
  rw [toList_newline]
  exact .inr (.inr rfl)

theorem ends_comma (rest : List Char) : Ends (',' :: rest) := .inr (.inl rfl)

/-! ### Blanks -/

section

variable {c : Char} {v : Json}

theorem skipBlanks_solid (n : Nat) (cs : List Char) (solid : isBlank c = false) :
    skipBlanks (c :: cs) n = ⟨c :: cs, n⟩ := by
  rw [skipBlanks, if_neg (by rw [solid]; nofun)]

theorem skipBlanks_newline (indent n : Nat) (cs : List Char) (solid : isBlank c = false) :
    ∃ behind, skipBlanks ((newline indent).toList ++ c :: cs) n = ⟨c :: cs, behind⟩ := by
  rw [toList_newline, List.cons_append, skipBlanks, if_pos (by decide)]
  generalize n + 1 = n
  induction indent generalizing n with
  | zero => exact ⟨n, skipBlanks_solid n cs solid⟩
  | succ indent ih =>
    rw [List.replicate_succ, List.cons_append, skipBlanks, if_pos (by decide)]
    exact ih (n + 1)

theorem skipBlanks_value (plain : Plain room v) (indent n : Nat) (rest : List Char) : ∃ behind,
    skipBlanks ((newline indent).toList ++ ((indentedAt indent v).toList ++ rest)) n =
      ⟨(indentedAt indent v).toList ++ rest, behind⟩ := by
  obtain ⟨c, cs, text, opens⟩ := exists_indentedAt indent plain
  rw [text, List.cons_append]
  exact skipBlanks_newline indent n _ opens.solid

theorem skipBlanks_blank_value (plain : Plain room v) (indent n : Nat) (rest : List Char) :
    skipBlanks (' ' :: ((indentedAt indent v).toList ++ rest)) n =
      ⟨(indentedAt indent v).toList ++ rest, n + 1⟩ := by
  obtain ⟨c, cs, text, opens⟩ := exists_indentedAt indent plain
  rw [text, List.cons_append, skipBlanks, if_pos (by decide), skipBlanks_solid _ _ opens.solid]

theorem skipBlanks_key (key : String) (indent n : Nat) (rest : List Char) : ∃ behind,
    skipBlanks ((newline indent).toList ++ ((quoted key).toList ++ rest)) n =
      ⟨(quoted key).toList ++ rest, behind⟩ := by
  rw [quoted_append]
  exact skipBlanks_newline indent n _ rfl

end

/-! ### Steps of the reader -/

section

variable {fuel indent outer : Nat} {cs more : List Char} {v w : Json} {key' : String}

theorem readItems_last (items : List Json)
    (read : Leaves (readValue fuel room cs n) v ((newline outer).toList ++ ']' :: rest)) :
    Leaves (readItems (fuel + 1) room cs n items) (.list (items ++ [v])) rest := by
  obtain ⟨behind, read⟩ := read
  obtain ⟨closing, skipped⟩ := skipBlanks_newline outer behind rest (c := ']') rfl
  rw [readItems, read]
  simp only [bind, Except.bind, skipped]
  exact ⟨_, rfl⟩

theorem readItems_next (items : List Json) (plain : Plain room w) (read : Leaves (readValue fuel room cs n) v
      (',' :: ((newline indent).toList ++ ((indentedAt indent w).toList ++ more)))) :
    ∃ next, readItems (fuel + 1) room cs n items =
      readItems fuel room ((indentedAt indent w).toList ++ more) next (items ++ [v]) := by
  obtain ⟨behind, read⟩ := read
  obtain ⟨next, skipped⟩ := skipBlanks_value plain indent (behind + 1) more
  refine ⟨next, ?_⟩
  rw [readItems, read]
  simp only [bind, Except.bind, skipBlanks_solid behind _ (c := ',') rfl, skipped]

theorem readFields_last (n : Nat) (key : String) (fields : List (List Text.Point × Json))
    (plain : Plain room v)
    (read : ∀ n, Leaves (readValue fuel room ((indentedAt indent v).toList ++ more) n) v more)
    (closes : more = (newline outer).toList ++ '}' :: rest) :
    Leaves (readFields (fuel + 1) room
        ((quoted key).toList ++ ':' :: ' ' :: ((indentedAt indent v).toList ++ more)) n fields)
      (.ofFields (put (Text.points key) v fields)) rest := by
  subst closes
  obtain ⟨colon, named⟩ :=
    readString_quoted n (n + 1) key (':' :: ' ' :: ((indentedAt indent v).toList ++ _))
  obtain ⟨behind, read⟩ := read (colon + 1 + 1)
  obtain ⟨closing, skipped⟩ := skipBlanks_newline outer behind rest (c := '}') rfl
  rw [quoted_append, readFields, named]
  simp only [bind, Except.bind, skipBlanks_solid colon _ (c := ':') rfl,
    skipBlanks_blank_value plain indent (colon + 1), read, skipped]
  exact ⟨_, rfl⟩

theorem readFields_next (n : Nat) (key : String) (fields : List (List Text.Point × Json))
    (plain : Plain room v)
    (read : ∀ n, Leaves (readValue fuel room ((indentedAt indent v).toList ++ more) n) v more)
    (goesOn : more = ',' :: ((newline indent).toList ++ ((quoted key').toList ++ rest))) :
    ∃ next, readFields (fuel + 1) room
        ((quoted key).toList ++ ':' :: ' ' :: ((indentedAt indent v).toList ++ more)) n fields =
      readFields fuel room ((quoted key').toList ++ rest) next
        (put (Text.points key) v fields) := by
  subst goesOn
  obtain ⟨colon, named⟩ :=
    readString_quoted n (n + 1) key (':' :: ' ' :: ((indentedAt indent v).toList ++ _))
  obtain ⟨behind, read⟩ := read (colon + 1 + 1)
  obtain ⟨next, skipped⟩ := skipBlanks_key key' indent (behind + 1) rest
  refine ⟨next, ?_⟩
  rw [quoted_append, readFields, named]
  simp only [bind, Except.bind, skipBlanks_solid colon _ (c := ':') rfl,
    skipBlanks_blank_value plain indent (colon + 1), read,
    skipBlanks_solid behind _ (c := ',') rfl, skipped]

end

/-! ### Lists and records -/

/-- However much of the text is left, this value is read off its front as it is printed at this
level. -/
def ReadsBack (room indent : Nat) (v : Json) : Prop :=
  ∀ fuel rest n, (indentedAt indent v).toList.length ≤ fuel → Ends rest →
    Leaves (readValue fuel room ((indentedAt indent v).toList ++ rest) n) v rest

theorem readItems_printed {indent : Nat} (outer fuel : Nat) {v : Json} {vs : List Json}
    (plain : ∀ w ∈ v :: vs, Plain room w) (back : ∀ w ∈ v :: vs, ReadsBack room indent w) (n : Nat)
    (done : List Json) (rest : List Char)
    (enough : (indentedAt indent v).toList.length +
      (vs.flatMap (',' :: itemText indent ·)).length ≤ fuel) :
    Leaves (readItems (fuel + 1) room ((indentedAt indent v).toList ++
        (vs.flatMap (',' :: itemText indent ·) ++ ((newline outer).toList ++ ']' :: rest))) n done)
      (.list (done ++ v :: vs)) rest := by
  induction vs generalizing v fuel n done with
  | nil =>
    exact readItems_last done (back v List.mem_cons_self fuel _ n enough (ends_newline outer _))
  | cons w ws ih =>
    have plain' : ∀ x ∈ w :: ws, Plain room x := fun x held => plain x (List.mem_cons_of_mem v held)
    have back' : ∀ x ∈ w :: ws, ReadsBack room indent x :=
      fun x held => back x (List.mem_cons_of_mem v held)
    have length := lt_length_itemText indent w
    rw [List.flatMap_cons, List.length_append, List.length_cons] at enough
    -- What the comma costs pays for the step.
    obtain ⟨fuel, rfl⟩ := Nat.exists_eq_add_of_le' (m := 1) (n := fuel) (by omega)
    rw [items_append]
    obtain ⟨next, step⟩ := readItems_next done (plain' w List.mem_cons_self)
      (back v List.mem_cons_self (fuel + 1) _ n (by omega) (ends_comma _))
    rw [step, List.append_cons done v (w :: ws)]
    exact ih fuel plain' back' next (done ++ [v]) (by omega)

/-- Fields whose keys are whole, as the reader gathers them. -/
def pointed (fields : List (String × Json)) : List (List Text.Point × Json) :=
  fields.map fun e => (Text.points e.1, e.2)

theorem named?_pointed (fields : List (String × Json)) : named? (pointed fields) = some fields := by
  induction fields with
  | nil => rfl
  | cons e fields ih =>
    rw [pointed, List.map_cons, ← pointed, named?, Text.whole?_points, ih]

@[simp] theorem ofFields_pointed (fields : List (String × Json)) :
    ofFields (pointed fields) = .record fields := by
  rw [ofFields, named?_pointed]

theorem put_pointed {key : String} (v : Json) {done : List (String × Json)}
    (fresh : key ∉ done.map (·.1)) :
    put (Text.points key) v (pointed done) = pointed (done ++ [(key, v)]) := by
  induction done with
  | nil => rfl
  | cons e done ih =>
    rw [List.map_cons, List.mem_cons, not_or] at fresh
    have other : Text.points e.1 ≠ Text.points key :=
      fun same => fresh.1 (Text.points_inj.mp same).symm
    change put _ v ((Text.points e.1, e.2) :: pointed done) = _
    rw [put, if_neg other, ih fresh.2]
    rfl

theorem fresh_of_nodup {e : String × Json} {done fields : List (String × Json)}
    (distinct : ((done ++ e :: fields).map (·.1)).Nodup) : e.1 ∉ done.map (·.1) := by
  rw [List.map_append, List.map_cons] at distinct
  exact fun held => List.disjoint_of_nodup_append distinct held List.mem_cons_self

theorem readFields_printed {indent : Nat} (outer fuel : Nat) {e : String × Json}
    {fields : List (String × Json)} (plain : ∀ f ∈ e :: fields, Plain room f.2)
    (back : ∀ f ∈ e :: fields, ReadsBack room indent f.2) (n : Nat) (done : List (String × Json))
    (distinct : ((done ++ e :: fields).map (·.1)).Nodup) (rest : List Char)
    (enough : (indentedAt indent e.2).toList.length +
      (fields.flatMap (',' :: fieldText indent ·)).length ≤ fuel) :
    Leaves (readFields (fuel + 1) room
        ((quoted e.1).toList ++ ':' :: ' ' :: ((indentedAt indent e.2).toList ++
          (fields.flatMap (',' :: fieldText indent ·) ++ ((newline outer).toList ++ '}' :: rest))))
        n (pointed done))
      (.record (done ++ e :: fields)) rest := by
  have added := put_pointed e.2 (fresh_of_nodup distinct)
  induction fields generalizing e fuel n done with
  | nil =>
    rw [← ofFields_pointed, ← added]
    exact readFields_last n e.1 (pointed done) (plain e List.mem_cons_self)
      (fun n => back e List.mem_cons_self fuel _ n enough (ends_newline outer _)) rfl
  | cons f fields ih =>
    have plain' : ∀ x ∈ f :: fields, Plain room x.2 :=
      fun x held => plain x (List.mem_cons_of_mem e held)
    have back' : ∀ x ∈ f :: fields, ReadsBack room indent x.2 :=
      fun x held => back x (List.mem_cons_of_mem e held)
    have length := lt_length_fieldText indent f
    rw [List.flatMap_cons, List.length_append, List.length_cons] at enough
    obtain ⟨fuel, rfl⟩ := Nat.exists_eq_add_of_le' (m := 1) (n := fuel) (by omega)
    rw [fields_append]
    obtain ⟨next, step⟩ := readFields_next n e.1 (pointed done) (plain e List.mem_cons_self)
      (fun n => back e List.mem_cons_self (fuel + 1) _ n (by omega) (ends_comma _)) rfl
    rw [List.append_cons] at distinct
    rw [step, added, List.append_cons done e (f :: fields)]
    exact ih fuel plain' back' next (done ++ [e]) distinct (by omega)
      (put_pointed f.2 (fresh_of_nodup distinct))

/-! ### Values -/

theorem readValue_atom {c : Char} (fuel n : Nat) (cs : List Char) (noText : c ≠ '"')
    (noList : c ≠ '[') (noRecord : c ≠ '{') :
    readValue (fuel + 1) room (c :: cs) n = readAtom (c :: cs) n := by
  rw [readValue]
  all_goals
    intro rest same
    cases same
    contradiction

theorem readValue_list {v : Json} (plain : Plain room v) (fuel indent n : Nat) (rest : List Char) :
    ∃ first, readValue (fuel + 1) (room + 1)
        ('[' :: ((newline indent).toList ++ ((indentedAt indent v).toList ++ rest))) n =
      readItems fuel room ((indentedAt indent v).toList ++ rest) first [] := by
  obtain ⟨first, skipped⟩ := skipBlanks_value plain indent (n + 1) rest
  obtain ⟨c, cs, text, opens⟩ := exists_indentedAt indent plain
  refine ⟨first, ?_⟩
  rw [text, List.cons_append] at skipped ⊢
  rw [readValue]
  simp only [skipped]
  split
  · next same =>
    obtain ⟨rfl, _⟩ := List.cons.inj same
    exact absurd rfl opens.noClose
  · rfl

theorem readValue_record (fuel indent n : Nat) (key : String) (rest : List Char) :
    ∃ first, readValue (fuel + 1) (room + 1)
        ('{' :: ((newline indent).toList ++ ((quoted key).toList ++ rest))) n =
      readFields fuel room ((quoted key).toList ++ rest) first [] := by
  obtain ⟨first, skipped⟩ := skipBlanks_key key indent (n + 1) rest
  refine ⟨first, ?_⟩
  rw [quoted_append] at skipped ⊢
  rw [readValue]
  simp only [skipped]
  rfl

theorem readsBack_of_succ {indent : Nat} {v : Json} (plain : Plain room v)
    (read : ∀ fuel rest n, (indentedAt indent v).toList.length ≤ fuel + 1 → Ends rest →
      Leaves (readValue (fuel + 1) room ((indentedAt indent v).toList ++ rest) n) v rest) :
    ReadsBack room indent v := by
  intro fuel rest n enough ends
  obtain ⟨c, cs, text, _⟩ := exists_indentedAt indent plain
  cases fuel with
  | zero => rw [text] at enough; cases enough
  | succ fuel => exact read fuel rest n enough ends

theorem Plain.readsBack {v : Json} (plain : Plain room v) (indent : Nat) : ReadsBack room indent v := by
  induction plain generalizing indent with
  | null =>
    refine readsBack_of_succ .null fun fuel rest n enough ends => ?_
    rw [indentedAt]
    exact ⟨n + 4, rfl⟩
  | bool b =>
    refine readsBack_of_succ (.bool b) fun fuel rest n enough ends => ?_
    rw [indentedAt]
    cases b with
    | false => exact ⟨n + 5, rfl⟩
    | true => exact ⟨n + 4, rfl⟩
  | int z short =>
    refine readsBack_of_succ (.int z short) fun fuel rest n enough ends => ?_
    obtain ⟨c, cs, text, first⟩ := exists_toString_int z
    have read := readAtom_int n ends short
    rw [indentedAt]
    rw [text, List.cons_append] at read ⊢
    rcases first with rfl | digit
    · rwa [readValue_atom fuel n _ (by decide) (by decide) (by decide)]
    · rwa [readValue_atom fuel n _ (ne_of_isDigit digit rfl) (ne_of_isDigit digit rfl)
        (ne_of_isDigit digit rfl)]
  | text s =>
    refine readsBack_of_succ (.text s) fun fuel rest n enough ends => ?_
    obtain ⟨behind, read⟩ := readString_quoted n (n + 1) s rest
    rw [indentedAt, quoted_append, readValue, read]
    exact ⟨behind, by rw [← ofPoints_points s]; rfl⟩
  | list items plain ih =>
    refine readsBack_of_succ (.list items plain) fun fuel rest n enough ends => ?_
    cases items with
    | nil =>
      rw [indentedAt]
      exact ⟨n + 1 + 1, rfl⟩
    | cons v vs =>
      have length := congrArg List.length (list_append indent v vs [])
      simp only [List.append_nil, List.length_cons, List.length_append] at length
      have read := readItems_printed indent (fuel - 1) plain
        (fun w held => ih w held (indent + 2))
      rw [Nat.sub_add_cancel (by omega)] at read
      obtain ⟨first, step⟩ := readValue_list (plain v List.mem_cons_self) fuel (indent + 2) n _
      rw [list_append, step]
      exact read first [] rest (by omega)
  | record fields distinct plain ih =>
    refine readsBack_of_succ (.record fields distinct plain) fun fuel rest n enough ends => ?_
    cases fields with
    | nil =>
      rw [indentedAt]
      exact ⟨n + 1 + 1, rfl⟩
    | cons e fields =>
      have length := congrArg List.length (record_append indent e fields [])
      simp only [List.append_nil, List.length_cons, List.length_append] at length
      have read := readFields_printed indent (fuel - 1) plain
        (fun f held => ih f held (indent + 2))
      rw [Nat.sub_add_cancel (by omega)] at read
      obtain ⟨first, step⟩ := readValue_record fuel (indent + 2) n e.1 _
      rw [record_append, step]
      exact read first [] distinct rest (by omega)

/-- What is printed is read again. -/
theorem Plain.read_indented {v : Json} (plain : Plain room v) :
    readWithin room v.indented = .ok v := by
  obtain ⟨c, cs, text, opens⟩ := exists_indentedAt 0 plain
  have noMark : (c :: cs).head? ≠ some '\uFEFF' := fun mark => opens.noMark (Option.some.inj mark)
  obtain ⟨behind, done⟩ :=
    plain.readsBack 0 (2 * (indentedAt 0 v).toList.length + 2) [] 0 (by omega) (.inl rfl)
  rw [List.append_nil, text] at done
  rw [readWithin, indented, text]
  simp only [if_neg noMark, skipBlanks_solid 0 cs opens.solid, done, bind, Except.bind]
  rfl

/-! ### Line breaks -/

theorem hexChar_ne_return {m : Nat} (small : m < 16) : '\r' ≠ hexChar m := by
  interval_cases m <;> decide

theorem return_notMem_unitEscape (m : Nat) : '\r' ∉ unitEscape m := by
  have digit (k : Nat) : '\r' ≠ hexChar (k % 16) := hexChar_ne_return (Nat.mod_lt k (by decide))
  simp [unitEscape, digit]

theorem return_notMem_escapeChar (c : Char) : '\r' ∉ escapeChar c := by
  rw [escapeChar.eq_def]
  split
  case h_8 =>
    simp only
    split
    · next printable =>
      rw [List.mem_singleton]
      rintro rfl
      exact absurd printable.1 (by decide)
    · split
      · exact return_notMem_unitEscape _
      · rw [List.mem_append, not_or]
        exact ⟨return_notMem_unitEscape _, return_notMem_unitEscape _⟩
  all_goals decide

theorem return_notMem_quoted (s : String) : '\r' ∉ (quoted s).toList := by
  have escaped : '\r' ∉ s.toList.flatMap escapeChar := fun held =>
    let ⟨c, _, inside⟩ := List.mem_flatMap.mp held
    return_notMem_escapeChar c inside
  simp [toList_quoted, escaped]

theorem return_notMem_newline (indent : Nat) : '\r' ∉ (newline indent).toList := by
  simp [toList_newline, List.mem_replicate]

theorem return_notMem_toString (z : Int) : '\r' ∉ (toString z).toList := by
  have digits (m : Nat) : '\r' ∉ Nat.toDigits 10 m := fun held =>
    absurd (Nat.isDigit_of_mem_toDigits (by decide) (by decide) held) (by decide)
  cases z with
  | ofNat m =>
    have text : (toString (Int.ofNat m)).toList = Nat.toDigits 10 m := Nat.toList_repr
    rw [text]
    exact digits m
  | negSucc m =>
    rw [toList_negSucc, List.mem_cons, not_or]
    exact ⟨by decide, digits _⟩

/-- Lines end in a line feed only. -/
theorem Plain.return_notMem {v : Json} (plain : Plain room v) (indent : Nat) :
    '\r' ∉ (indentedAt indent v).toList := by
  induction plain generalizing indent with
  | null => rw [indentedAt]; decide
  | bool b => rw [indentedAt]; cases b <;> decide
  | int z short => rw [indentedAt]; exact return_notMem_toString z
  | text s => rw [indentedAt]; exact return_notMem_quoted s
  | list items plain ih =>
    cases items with
    | nil => rw [indentedAt]; decide
    | cons v vs =>
      have later : '\r' ∉ vs.flatMap (',' :: itemText (indent + 2) ·) := by
        intro held
        obtain ⟨w, listed, inside⟩ := List.mem_flatMap.mp held
        simp [itemText, return_notMem_newline, ih w (List.mem_cons_of_mem v listed)] at inside
      rw [← List.append_nil (indentedAt indent _).toList, list_append]
      simp [return_notMem_newline, ih v List.mem_cons_self, later]
  | record fields distinct plain ih =>
    cases fields with
    | nil => rw [indentedAt]; decide
    | cons e fields =>
      have later : '\r' ∉ fields.flatMap (',' :: fieldText (indent + 2) ·) := by
        intro held
        obtain ⟨f, listed, inside⟩ := List.mem_flatMap.mp held
        simp [fieldText, return_notMem_newline, return_notMem_quoted,
          ih f (List.mem_cons_of_mem e listed)] at inside
      rw [← List.append_nil (indentedAt indent _).toList, record_append]
      simp [return_notMem_newline, return_notMem_quoted, ih e List.mem_cons_self, later]

/-- A natural number of too many digits is printed, but not read again. -/
theorem read_indented_of_long {m : Nat} (long : maxDigits < (Nat.toDigits 10 m).length) :
    readWithin room (Json.int m).indented = .error ⟨.beyond .digits, 0⟩ := by
  obtain ⟨c, cs, text, digit⟩ := exists_toDigits_append m []
  obtain ⟨next, refused⟩ := readNumber_toDigits_eq false 0 m (.inl rfl : Ends [])
  rw [if_pos long, text] at refused
  rw [List.append_nil] at text
  have printed : (Json.int m).indented.toList = c :: cs := Nat.toList_repr.trans text
  have opens := opens_digit digit
  have apart {x : Char} (other : x.isDigit = false) : c ≠ x := ne_of_isDigit digit other
  have noMark : (c :: cs).head? ≠ some '\uFEFF' := fun mark => opens.noMark (Option.some.inj mark)
  rw [readWithin, printed]
  simp only [if_neg noMark, skipBlanks_solid 0 cs opens.solid,
    readValue_atom _ 0 cs (apart rfl) (apart rfl) (apart rfl), readAtom_digit cs 0 digit, refused,
    bind, Except.bind]

/-! ### Lists within lists -/

theorem readValue_nested (room fuel n : Nat) (rest : List Char) (enough : 2 * room < fuel) :
    readValue fuel room (List.replicate (room + 1) '[' ++ rest) n =
      .error ⟨.beyond .nesting, n + room⟩ := by
  induction room generalizing fuel n with
  | zero =>
    obtain ⟨fuel, rfl⟩ := Nat.exists_eq_add_of_le' (m := 1) (n := fuel) (by omega)
    rfl
  | succ room ih =>
    obtain ⟨fuel, rfl⟩ := Nat.exists_eq_add_of_le' (m := 2) (n := fuel) (by omega)
    have inner := ih fuel (n + 1) (by omega)
    rw [List.replicate_succ, List.cons_append] at inner ⊢
    rw [List.replicate_succ, List.cons_append, readValue]
    simp only [skipBlanks_solid (n + 1) _ (c := '[') rfl]
    rw [readItems, inner, Nat.add_assoc n 1 room, Nat.add_comm 1 room]
    rfl

/-- Of lists within one another there are more than the reader has room for. -/
theorem readWithin_nested (room : Nat) (rest : List Char) :
    readWithin room (String.ofList (List.replicate (room + 1) '[' ++ rest)) =
      .error ⟨.beyond .nesting, room⟩ := by
  have length : (List.replicate (room + 1) '[' ++ rest).length = room + 1 + rest.length := by
    rw [List.length_append, List.length_replicate]
  have stops := readValue_nested room (2 * (room + 1 + rest.length) + 2) 0 rest (by omega)
  rw [readWithin, String.toList_ofList, length]
  rw [List.replicate_succ, List.cons_append] at stops ⊢
  simp only [skipBlanks_solid 0 _ (c := '[') rfl, stops, Nat.zero_add, bind, Except.bind]
  rfl

end OpenDocs.Json
