import OpenDocs.Proofs.Disk.Places

/-!
# Paths as they are spelled

The text of a path that was read from a text is read as that path again. A path in normal form, its
names being such as a file can have, is its own normal form.
-/

namespace OpenDocs

/-! ### Pieces put together and cut again -/

namespace Text

variable {α : Type} [DecidableEq α] {mark : α} {piece cs : List α} {parts : List (List α)}

theorem notMem_of_mem_cut (listed : piece ∈ cut mark cs) : mark ∉ piece := by
  induction cs generalizing piece with
  | nil =>
    obtain rfl := List.mem_singleton.mp listed
    exact List.not_mem_nil
  | cons c cs ih =>
    rw [cut] at listed
    split at listed
    · rcases List.mem_cons.mp listed with rfl | later
      · exact List.not_mem_nil
      · exact ih later
    · next other =>
      split at listed
      · next none_ => exact absurd none_ (cut_ne_nil mark cs)
      · next first rest pieces =>
        rw [pieces] at ih
        rcases List.mem_cons.mp listed with rfl | later
        · rw [List.mem_cons, not_or]
          exact ⟨Ne.symm other, ih List.mem_cons_self⟩
        · exact ih (List.mem_cons_of_mem first later)

theorem cut_join (filled : parts ≠ []) (free : ∀ piece ∈ parts, mark ∉ piece) :
    cut mark (join mark parts) = parts := by
  induction parts with
  | nil => exact absurd rfl filled
  | cons piece parts ih =>
    obtain ⟨first, later⟩ := List.forall_mem_cons.mp free
    cases parts with
    | nil => exact cut_of_not_mem first
    | cons next rest =>
      change cut mark (piece ++ mark :: join mark (next :: rest)) = _
      rw [cut_append_mark first, ih (List.cons_ne_nil next rest) later]

theorem cut_marks_append (k : Nat) (cs : List α) :
    cut mark (List.replicate k mark ++ cs) = List.replicate k [] ++ cut mark cs := by
  induction k with
  | zero => rfl
  | succ k ih => rw [List.replicate_succ, List.cons_append, cut, if_pos rfl, ih]; rfl

theorem toList_intercalate_slash (names : List String) :
    ("/".intercalate names).toList = join '/' (names.map String.toList) := by
  rw [String.toList_intercalate]
  induction names with
  | nil => rfl
  | cons name names ih =>
    cases names with
    | nil => simp [join, List.intercalate]
    | cons next rest =>
      rw [List.map_cons, List.map_cons, List.intercalate_cons_cons, ← List.map_cons, ih,
        List.append_assoc]
      rfl

end Text

namespace Disk

/-! ### Paths and their texts -/

namespace Path

theorem hasNul_eq_false_iff {p : Path} :
    p.hasNul = false ↔ ∀ name ∈ p.names, '\x00' ∉ name.toList := by
  simp [hasNul, List.any_eq_false]

/-- A path as a text can spell it. -/
structure Proper (p : Path) : Prop where
  slashes : p.slashes ≤ 2
  names : ∀ name ∈ p.names, isName name = true ∧ '/' ∉ name.toList

variable {p : Path}

theorem leadingSlashes_append {k : Nat} {cs : List Char} (few : k ≤ 2)
    (free : cs.head? ≠ some '/') : leadingSlashes (List.replicate k '/' ++ cs) = k := by
  have none_ : cs.takeWhile (· == '/') = [] := by
    cases cs with
    | nil => rfl
    | cons c cs => exact List.takeWhile_cons_of_neg (by simpa using free)
  have count : ((List.replicate k '/' ++ cs).takeWhile (· == '/')).length = k := by
    rw [List.takeWhile_append_of_pos (by simp), none_, List.append_nil, List.length_replicate]
  rw [leadingSlashes, count]
  match k, few with
  | 0, _ => rfl
  | 1, _ => rfl
  | 2, _ => rfl

/-- The names of a path, with a slash between each two. -/
def spelled (p : Path) : List Char := Text.join '/' (p.names.map String.toList)

theorem toList_text (named : p.slashes ≠ 0 ∨ p.names ≠ []) :
    p.text.toList = List.replicate p.slashes '/' ++ p.spelled := by
  have filled : ¬ (p.slashes = 0 && p.names.isEmpty) = true := by
    rw [Bool.and_eq_true, List.isEmpty_iff, decide_eq_true_iff]
    tauto
  rw [text, if_neg filled, String.toList_append, String.toList_ofList,
    Text.toList_intercalate_slash, spelled]

theorem Proper.head?_spelled (proper : p.Proper) : p.spelled.head? ≠ some '/' := by
  intro slash
  rw [spelled] at slash
  cases names : p.names with
  | nil =>
    rw [names] at slash
    cases slash
  | cons name rest =>
    obtain ⟨named, free⟩ := proper.names name (names ▸ List.mem_cons_self)
    cases chars : name.toList with
    | nil =>
      rw [String.toList_eq_nil_iff] at chars
      subst chars
      cases named
    | cons c cs =>
      have first : c = '/' := by
        rw [names, List.map_cons, chars] at slash
        cases rest with
        | nil => exact Option.some.inj slash
        | cons next rest => exact Option.some.inj slash
      exact free (chars ▸ first ▸ List.mem_cons_self)

theorem Proper.pieces_spelled (proper : p.Proper) :
    ((Text.cut '/' p.spelled).map String.ofList).filter isName = p.names := by
  by_cases unnamed : p.names = []
  · rw [spelled, unnamed]
    decide
  · have free : ∀ piece ∈ p.names.map String.toList, '/' ∉ piece := by
      intro piece listed
      obtain ⟨name, held, rfl⟩ := List.mem_map.mp listed
      exact (proper.names name held).2
    have same : (p.names.map String.toList).map String.ofList = p.names := by
      simp [Function.comp_def, String.ofList_toList]
    rw [spelled, Text.cut_join (by simpa using unnamed) free, same, List.filter_eq_self]
    exact fun name held => (proper.names name held).1

/-- A path that a text spells is read again from its own text. -/
theorem Proper.ofString_text (proper : p.Proper) : ofString p.text = p := by
  by_cases named : p.slashes ≠ 0 ∨ p.names ≠ []
  · have leading := leadingSlashes_append proper.slashes proper.head?_spelled
    have names : (Text.pieces '/' p.text).filter isName = p.names := by
      rw [Text.pieces, toList_text named, Text.cut_marks_append, List.map_append,
        List.filter_append, proper.pieces_spelled]
      have blank : ((List.replicate p.slashes ([] : List Char)).map String.ofList).filter isName =
          [] := by
        rw [List.map_replicate]
        exact List.filter_replicate_of_neg (by decide)
      rw [blank, List.nil_append]
    rw [ofString, toList_text named, leading, names]
  · obtain ⟨none_, unnamed⟩ := not_or.mp named
    obtain ⟨slashes, names⟩ := p
    obtain rfl := not_not.mp none_
    obtain rfl := not_not.mp unnamed
    decide

/-- An absolute path without steps up, whose names are such as a file can have. -/
structure Settled (p : Path) : Prop where
  slashes : p.slashes = 1
  names : ∀ name ∈ p.names,
    isName name = true ∧ '/' ∉ name.toList ∧ name ≠ ".." ∧ '\x00' ∉ name.toList

theorem Settled.proper (settled : p.Settled) : p.Proper :=
  ⟨settled.slashes ▸ by decide, fun name held =>
    ⟨(settled.names name held).1, (settled.names name held).2.1⟩⟩

end Path

/-! ### Normal forms -/

/-- The working directory is in normal form, and a text spells every home. -/
structure Situated (d : Disk) : Prop where
  working : (Path.ofNames d.working).Settled
  homes : ∀ home ∈ d.homes, home.Proper

variable {d : Disk} {p q : Path} {names : List String}

theorem follow_of_down {here : List String} (down : ∀ name ∈ names, name ≠ "..") :
    follow here names = here ++ names := by
  induction names generalizing here with
  | nil => exact (List.append_nil here).symm
  | cons name names ih =>
    obtain ⟨first, later⟩ := List.forall_mem_cons.mp down
    rw [follow_cons, if_neg first, ih later, List.append_assoc, List.singleton_append]

/-- Names without a step up stay as they are. -/
theorem settle_append_of_down {before : List String} (down : ∀ name ∈ names, name ≠ "..") :
    settle (before ++ names) = settle before ++ names := by
  rw [settle_append, follow_of_down down]

theorem settle_of_down (down : ∀ name ∈ names, name ≠ "..") : settle names = names :=
  follow_of_down down

theorem mem_of_mem_settle {name : String} (held : name ∈ settle names) :
    name ∈ names ∧ name ≠ ".." := by
  induction names using List.reverseRecOn with
  | nil => cases held
  | append_singleton names last ih =>
    rw [settle_append, follow_cons] at held
    change name ∈ if last = ".." then _ else _ at held
    split at held
    · obtain ⟨listed, down⟩ := ih (List.mem_of_mem_dropLast held)
      exact ⟨List.mem_append_left _ listed, down⟩
    · next other =>
      rcases List.mem_append.mp held with before | here
      · obtain ⟨listed, down⟩ := ih before
        exact ⟨List.mem_append_left _ listed, down⟩
      · obtain rfl := List.mem_singleton.mp here
        exact ⟨List.mem_append_right _ here, other⟩

theorem Situated.resolve_settled (situated : d.Situated) (proper : p.Proper)
    (resolved : d.resolve p = .ok q) : q.Settled := by
  obtain ⟨noNul, rfl⟩ := resolve_eq_ok_iff.mp resolved
  refine ⟨rfl, fun name held => ?_⟩
  obtain ⟨listed, down⟩ := mem_of_mem_settle held
  rcases List.mem_append.mp listed with before | own
  · split at before
    · cases before
    · exact situated.working.names name before
  · obtain ⟨named, free⟩ := proper.names name own
    exact ⟨named, free, down, Path.hasNul_eq_false_iff.mp noNul name own⟩

theorem Situated.expandHome_proper (situated : d.Situated) (proper : p.Proper)
    (expanded : d.expandHome p = .ok q) : q.Proper := by
  rcases expandHome_cases expanded with ⟨_, rfl⟩ | ⟨first, rest, home, start⟩
  · exact proper
  · have spelled := situated.homes home (mem_homes_of_homeOf start.known)
    rw [start.joined]
    refine ⟨spelled.slashes, fun name held => ?_⟩
    rcases List.mem_append.mp held with before | behind
    · exact spelled.names name before
    · exact proper.names name (start.names ▸ List.mem_cons_of_mem first behind)

/-- Every normal form is settled. -/
theorem Situated.normalize_settled (situated : d.Situated) (proper : p.Proper)
    (normal : d.normalize p = .ok q) : q.Settled := by
  obtain ⟨r, expanded, resolved⟩ := normalize_eq_ok_iff.mp normal
  exact situated.resolve_settled (situated.expandHome_proper proper expanded) resolved

theorem Path.Settled.down (settled : p.Settled) : ∀ name ∈ p.names, name ≠ ".." :=
  fun name held => (settled.names name held).2.2.1

theorem Path.Settled.hasNul (settled : p.Settled) : p.hasNul = false :=
  hasNul_eq_false_iff.mpr fun name held => (settled.names name held).2.2.2

theorem Path.Settled.ofNames_names (settled : p.Settled) : .ofNames p.names = p := by
  obtain ⟨slashes, names⟩ := p
  obtain rfl := settled.slashes
  rfl

/-- A path in normal form is its own. -/
theorem Path.Settled.normalize (settled : p.Settled) (d : Disk) : d.normalize p = .ok p := by
  have absolute : p.isAbsolute = true := by rw [isAbsolute, settled.slashes]; rfl
  refine normalize_eq_ok_iff.mpr ⟨p, ?_, resolve_eq_ok_iff.mpr ⟨settled.hasNul, ?_⟩⟩
  · exact expandHome_of_not_isTilded (by rw [isTilded, absolute]; rfl)
  · rw [if_pos absolute, List.nil_append, settle_of_down settled.down, settled.ofNames_names]

/-! ### Paths as seen from a root -/

/-- The path of a file, as it is seen from a root, leads to the file again. -/
inductive LeadsBack (d : Disk) (root p : Path) : Prop
  | outside : p.relativeTo? root = none → LeadsBack d root p
  | inside {seen : Path} : p.relativeTo? root = some seen → seen.isTilded = false →
      d.working = root.names → LeadsBack d root p
  /-- The name in front stands for a home, which is the directory of that name in the root. -/
  | home {name : String} {rest : List String} {home : Path} :
      p.relativeTo? root = some ⟨0, name :: rest⟩ → name.toList.head? = some '~' →
      d.homeOf name = .ok home → home.isTilded = false →
      d.resolve home = .ok (.ofNames (root.names ++ [name])) → LeadsBack d root p

theorem names_of_relativeTo? {root : Path} (under : p.relativeTo? root = some q) :
    q.slashes = 0 ∧ p.names = root.names ++ q.names := by
  rw [Path.relativeTo?] at under
  split at under
  · next within =>
    obtain rfl := Option.some.inj under
    rw [Bool.and_eq_true, List.isPrefixOf_iff_prefix] at within
    exact ⟨rfl, (List.prefix_iff_eq_append.mp within.2).symm⟩
  · cases under

theorem Situated.settle_working (situated : d.Situated) : settle d.working = d.working :=
  settle_of_down situated.working.down

section

variable {name : String} {seen rest : List String}

theorem startsWith_tilde_iff : name.startsWith "~" = true ↔ name.toList.head? = some '~' := by
  rw [String.startsWith_string_iff]
  change ['~'] <+: name.toList ↔ _
  cases name.toList <;> simp [eq_comm]

/-- No NUL is in a path, and a relative one does not begin with a tilde. -/
def Path.isPlain (p : Path) : Bool :=
  !p.hasNul && (p.isAbsolute || p.names.head?.all (!·.startsWith "~"))

theorem Path.isTilded_of_isPlain (plain : p.isPlain = true) : p.isTilded = false := by
  rw [← Bool.not_eq_true, isTilded_iff]
  rintro ⟨relative, name, rest, names, tilde⟩
  rw [isPlain, Bool.and_eq_true, relative, names] at plain
  have untilded : (!name.startsWith "~") = true := plain.2
  rw [startsWith_tilde_iff.mpr tilde] at untilded
  cases untilded

theorem expandHome_of_isPlain (plain : p.isPlain = true) : d.expandHome p = .ok p :=
  expandHome_of_not_isTilded (Path.isTilded_of_isPlain plain)

theorem exists_normal_of_isPlain (plain : p.isPlain = true) : ∃ q, d.normalize p = .ok q := by
  have free : p.hasNul = false := by
    rw [Path.isPlain, Bool.and_eq_true, Bool.not_eq_true'] at plain
    exact plain.1
  exact ⟨_, normalize_eq_ok_iff.mpr ⟨p, expandHome_of_isPlain plain,
    resolve_eq_ok_iff.mpr ⟨free, rfl⟩⟩⟩

theorem hasNul_eq_false_of_normalize (normal : d.normalize p = .ok q) : p.hasNul = false := by
  obtain ⟨r, expanded, resolved⟩ := normalize_eq_ok_iff.mp normal
  have free := (resolve_eq_ok_iff.mp resolved).1
  rcases expandHome_cases expanded with ⟨_, rfl⟩ | ⟨first, rest, home, start⟩
  · exact free
  · rw [start.joined, Path.hasNul_eq_false_iff] at free
    rw [Path.hasNul_eq_false_iff, start.names]
    intro name held
    rcases List.mem_cons.mp held with rfl | later
    · exact notMem_of_homeOf start.known
    · exact free name (List.mem_append_right _ later)

/-- A relative path that begins with no tilde is taken from the working directory. -/
theorem Situated.normalize_untilded (situated : d.Situated)
    (plain : (⟨0, seen⟩ : Path).isTilded = false)
    (free : (⟨0, seen⟩ : Path).hasNul = false) (down : ∀ name ∈ seen, name ≠ "..") :
    d.normalize ⟨0, seen⟩ = .ok (.ofNames (d.working ++ seen)) := by
  refine normalize_eq_ok_iff.mpr
    ⟨_, expandHome_of_not_isTilded plain, resolve_eq_ok_iff.mpr ⟨free, ?_⟩⟩
  rw [settle_append_of_down down]
  exact congrArg (fun before => Path.ofNames (before ++ seen)) situated.settle_working.symm

/-- Names behind a path, none of them a step up, stay as they are. -/
theorem resolve_join_iff {home : Path} (free : (⟨0, rest⟩ : Path).hasNul = false)
    (down : ∀ name ∈ rest, name ≠ "..") : d.resolve (home.join ⟨0, rest⟩) = .ok q ↔
      ∃ place, d.resolve home = .ok place ∧ q = .ofNames (place.names ++ rest) := by
  have joined : home.join ⟨0, rest⟩ = ⟨home.slashes, home.names ++ rest⟩ := rfl
  have nul : (⟨home.slashes, home.names ++ rest⟩ : Path).hasNul = home.hasNul := by
    rw [Path.hasNul] at free ⊢
    rw [List.any_append, free, Bool.or_false, Path.hasNul]
  rw [joined, resolve_eq_ok_iff, nul, ← List.append_assoc, settle_append_of_down down]
  simp only [resolve_eq_ok_iff]
  constructor
  · rintro ⟨clear, same⟩
    exact ⟨_, ⟨clear, rfl⟩, same⟩
  · rintro ⟨_, ⟨clear, rfl⟩, same⟩
    exact ⟨clear, same⟩

/-- A relative path that begins with a tilde is taken from the home that its first name stands
for. -/
theorem normalize_tilded_iff (tilde : name.toList.head? = some '~')
    (free : (⟨0, rest⟩ : Path).hasNul = false) (down : ∀ name ∈ rest, name ≠ "..") :
    d.normalize ⟨0, name :: rest⟩ = .ok q ↔ ∃ home, d.homeOf name = .ok home ∧
      home.isTilded = false ∧
      ∃ place, d.resolve home = .ok place ∧ q = .ofNames (place.names ++ rest) := by
  have tilded : (⟨0, name :: rest⟩ : Path).isTilded = true :=
    Path.isTilded_iff.mpr ⟨rfl, name, rest, rfl, tilde⟩
  rw [normalize_eq_ok_iff, expandHome_of_isTilded tilded rfl]
  constructor
  · rintro ⟨r, expanded, resolved⟩
    obtain ⟨home, known, expanded⟩ := bind_eq_ok_iff.mp expanded
    split at expanded
    · cases expanded
    · next plain =>
      obtain rfl := Except.ok.inj expanded
      exact ⟨home, known, Bool.eq_false_iff.mpr plain, (resolve_join_iff free down).mp resolved⟩
  · rintro ⟨home, known, plain, resolved⟩
    refine ⟨_, ?_, (resolve_join_iff free down).mpr resolved⟩
    rw [known]
    exact if_neg (Bool.eq_false_iff.mp plain)

end

theorem leadsBack_iff {root : Path} {seen : List String}
    (under : p.relativeTo? root = some ⟨0, seen⟩) : d.LeadsBack root p ↔
      (⟨0, seen⟩ : Path).isTilded = false ∧ d.working = root.names ∨
      ∃ name rest home, seen = name :: rest ∧ name.toList.head? = some '~' ∧
        d.homeOf name = .ok home ∧ home.isTilded = false ∧
        d.resolve home = .ok (.ofNames (root.names ++ [name])) := by
  constructor
  · rintro (elsewhere | ⟨under', plain, here⟩ | ⟨under', tilde, known, plain, place⟩)
    · rw [under] at elsewhere
      cases elsewhere
    · rw [under] at under'
      cases under'
      exact .inl ⟨plain, here⟩
    · rw [under] at under'
      cases under'
      exact .inr ⟨_, _, _, rfl, tilde, known, plain, place⟩
  · rintro (⟨plain, here⟩ | ⟨name, rest, home, rfl, tilde, known, plain, place⟩)
    · exact .inside under plain here
    · exact .home under tilde known plain place

/-- What is seen of a file from a root has the file's path as its normal form in these cases and no
others. -/
theorem Situated.normalize_seen_iff {root : Path} (situated : d.Situated) (settled : p.Settled) :
    d.normalize ((p.relativeTo? root).getD p) = .ok p ↔ d.LeadsBack root p := by
  cases under : p.relativeTo? root with
  | none => exact iff_of_true (settled.normalize d) (.outside under)
  | some q =>
    obtain ⟨slashes, seen⟩ := q
    obtain ⟨rfl, names⟩ := names_of_relativeTo? under
    have held {name : String} (own : name ∈ seen) : name ∈ p.names :=
      names ▸ List.mem_append_right root.names own
    have down (name : String) (own : name ∈ seen) : name ≠ ".." := settled.down name (held own)
    have free : (⟨0, seen⟩ : Path).hasNul = false :=
      Path.hasNul_eq_false_iff.mpr fun name own =>
        Path.hasNul_eq_false_iff.mp settled.hasNul name (held own)
    have whole : p = .ofNames (root.names ++ seen) := by rw [← names, settled.ofNames_names]
    rw [Option.getD_some, leadsBack_iff under]
    cases tilded : (⟨0, seen⟩ : Path).isTilded with
    | false =>
      have same : Path.ofNames (d.working ++ seen) = .ofNames (root.names ++ seen) ↔
          d.working = root.names := by
        simp [Path.ofNames]
      have noHome : ¬ ∃ name rest home, seen = name :: rest ∧ name.toList.head? = some '~' ∧
          d.homeOf name = .ok home ∧ home.isTilded = false ∧
          d.resolve home = .ok (.ofNames (root.names ++ [name])) := by
        rintro ⟨name, rest, home, rfl, tilde, _⟩
        rw [Path.isTilded_iff.mpr ⟨rfl, name, rest, rfl, tilde⟩] at tilded
        cases tilded
      rw [situated.normalize_untilded tilded free down, whole, Except.ok.injEq, same]
      simp only [noHome, or_false, true_and]
    | true =>
      obtain ⟨_, name, rest, rfl, tilde⟩ := Path.isTilded_iff.mp tilded
      have free' : (⟨0, rest⟩ : Path).hasNul = false :=
        Path.hasNul_eq_false_iff.mpr fun other own =>
          Path.hasNul_eq_false_iff.mp free other (List.mem_cons_of_mem name own)
      have down' (other : String) (own : other ∈ rest) : other ≠ ".." :=
        down other (List.mem_cons_of_mem name own)
      rw [normalize_tilded_iff tilde free' down', whole]
      constructor
      · rintro ⟨home, known, plain, place, resolved, same⟩
        have before : place.names = root.names ++ [name] := by
          have ends : root.names ++ [name] ++ rest = place.names ++ rest :=
            (List.append_cons root.names name rest).symm.trans (congrArg Path.names same)
          exact (List.append_cancel_right ends).symm
        refine .inr ⟨name, rest, home, rfl, tilde, known, plain, ?_⟩
        rw [resolved, ← before, (resolve_eq_ok_iff.mp resolved).2]
        rfl
      · rintro (⟨untilded, _⟩ | ⟨first, behind, home, same, _, known, plain, resolved⟩)
        · cases untilded
        · obtain ⟨rfl, rfl⟩ := List.cons.inj same
          exact ⟨home, known, plain, _, resolved,
            congrArg Path.ofNames (List.append_cons root.names name rest)⟩

example :
    let d : Disk := ⟨[], ["r"], ⟨1, ["h"]⟩, ⟨1, []⟩, [("~x", ⟨1, ["r", "~x"]⟩)], []⟩
    d.normalize (.ofString "~x/a.md") = .ok ⟨1, ["r", "~x", "a.md"]⟩ := by
  decide +kernel

end Disk

end OpenDocs
