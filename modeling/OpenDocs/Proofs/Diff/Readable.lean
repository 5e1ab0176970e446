import OpenDocs.Proofs.Diff.Unified

/-!
# Reading a unified diff

A reader cuts a diff behind each line feed and takes the lines by what they begin with. The reader
finds the hunks as they were made if and only if all their lines but the last end in a line feed: a
line that has another boundary, or none, is joined to the next one.
-/

namespace OpenDocs

/-! ### Pieces that end in a mark -/

namespace Text

/-- The pieces of a text that is cut behind each mark. -/
def cutAfter (mark : Char) : List Char → List (List Char)
  | [] => []
  | c :: cs =>
    if c = mark then [c] :: cutAfter mark cs
    else match cutAfter mark cs with
      | [] => [[c]]
      | piece :: rest => (c :: piece) :: rest

variable {mark : Char} {piece : List Char} {pieces : List (List Char)}

theorem cutAfter_append_mark (free : mark ∉ piece) (rest : List Char) :
    cutAfter mark (piece ++ mark :: rest) = (piece ++ [mark]) :: cutAfter mark rest := by
  induction piece with
  | nil => simp only [List.nil_append, cutAfter, if_pos]
  | cons c cs ih =>
    obtain ⟨other, later⟩ := not_or.mp (mt List.mem_cons.mpr free)
    simp only [List.cons_append, cutAfter, if_neg (Ne.symm other), ih later]

theorem cutAfter_of_not_mem (free : mark ∉ piece) (filled : piece ≠ []) :
    cutAfter mark piece = [piece] := by
  induction piece with
  | nil => exact absurd rfl filled
  | cons c cs ih =>
    obtain ⟨other, later⟩ := not_or.mp (mt List.mem_cons.mpr free)
    rw [cutAfter, if_neg (Ne.symm other)]
    cases cs with
    | nil => rfl
    | cons x xs => rw [ih later (List.cons_ne_nil x xs)]

theorem ends_of_mem_dropLast_cutAfter (mark : Char) (cs : List Char) :
    ∀ piece ∈ (cutAfter mark cs).dropLast, piece.getLast? = some mark := by
  induction cs with
  | nil => simp [cutAfter]
  | cons c cs ih =>
    rw [cutAfter]
    split
    · next same =>
      cases rest_eq : cutAfter mark cs with
      | nil => simp
      | cons next rest =>
        rw [rest_eq] at ih
        exact List.forall_mem_cons.mpr ⟨congrArg _ same, ih⟩
    · cases rest_eq : cutAfter mark cs with
      | nil => simp
      | cons next rest =>
        rw [rest_eq] at ih
        cases rest with
        | nil => simp
        | cons other more =>
          obtain ⟨first, later⟩ := List.forall_mem_cons.mp ih
          refine List.forall_mem_cons.mpr ⟨?_, later⟩
          rw [List.getLast?_cons, first, Option.getD_some]

/-- The mark stands nowhere in a piece but at its end. -/
def Whole (mark : Char) (piece : List Char) : Prop := piece ≠ [] ∧ mark ∉ piece.dropLast

theorem Whole.concat (free : mark ∉ piece) (last : Char) : Whole mark (piece ++ [last]) :=
  ⟨by simp, by rwa [List.dropLast_concat]⟩

theorem Whole.cons {c : Char} (whole : Whole mark piece) (other : mark ≠ c) :
    Whole mark (c :: piece) := by
  refine ⟨List.cons_ne_nil c piece, ?_⟩
  rw [List.dropLast_cons_of_ne_nil whole.1]
  exact List.not_mem_cons_of_ne_of_not_mem other whole.2

/-- The mark stands at the end of a piece and nowhere else. -/
def Closed (mark : Char) (piece : List Char) : Prop := ∃ init, piece = init ++ [mark] ∧ mark ∉ init

theorem Closed.whole (closed : Closed mark piece) : Whole mark piece := by
  obtain ⟨init, rfl, free⟩ := closed
  exact .concat free mark

theorem Closed.ends (closed : Closed mark piece) : piece.getLast? = some mark := by
  obtain ⟨init, rfl, _⟩ := closed
  exact List.getLast?_concat

theorem cutAfter_flatten_of_ends (whole : ∀ piece ∈ pieces, Whole mark piece)
    (ends : ∀ piece ∈ pieces.dropLast, piece.getLast? = some mark) :
    cutAfter mark pieces.flatten = pieces := by
  induction pieces with
  | nil => rfl
  | cons piece rest ih =>
    obtain ⟨⟨filled, free⟩, later⟩ := List.forall_mem_cons.mp whole
    obtain ⟨init, last, rfl⟩ := (List.eq_nil_or_concat' piece).resolve_left filled
    rw [List.dropLast_concat] at free
    by_cases same : last = mark
    · have behind : ∀ piece ∈ rest.dropLast, piece.getLast? = some mark := by
        cases rest with
        | nil => simp
        | cons next more => exact (List.forall_mem_cons.mp ends).2
      rw [List.flatten_cons, List.append_assoc, List.singleton_append, same,
        cutAfter_append_mark free, ih later behind]
    -- A piece without the mark is the last one.
    · cases rest with
      | nil =>
        rw [List.flatten_cons, List.flatten_nil, List.append_nil]
        exact cutAfter_of_not_mem (by simp [free, Ne.symm same]) filled
      | cons next more =>
        have closed := (List.forall_mem_cons.mp ends).1
        rw [List.getLast?_concat] at closed
        exact absurd (Option.some.inj closed) same

/-- Whole pieces are found again if and only if all but the last end in the mark. -/
theorem cutAfter_flatten_iff (whole : ∀ piece ∈ pieces, Whole mark piece) :
    cutAfter mark pieces.flatten = pieces ↔
      ∀ piece ∈ pieces.dropLast, piece.getLast? = some mark := by
  refine ⟨fun found => ?_, cutAfter_flatten_of_ends whole⟩
  rw [← found]
  exact ends_of_mem_dropLast_cutAfter mark pieces.flatten

/-- A line feed is a boundary, so that no line goes on behind one. -/
theorem whole_of_mem_cutFrom {open_ t : List Char} (free : '\n' ∉ open_) :
    ∀ line ∈ cutFrom open_ t, Whole '\n' line := by
  have unclosed := mt List.mem_reverse.mp free
  fun_induction cutFrom open_ t with
  | case1 => simp
  | case2 open_ filled =>
    obtain ⟨c, cs, rfl⟩ := List.exists_cons_of_ne_nil (mt List.isEmpty_iff.mpr filled)
    intro line met
    obtain rfl := List.mem_singleton.mp met
    rw [List.reverse_cons]
    exact .concat (mt List.mem_reverse.mp (List.not_mem_of_not_mem_cons free)) c
  | case3 open_ rest ih =>
    refine List.forall_mem_cons.mpr ⟨?_, ih List.not_mem_nil List.not_mem_nil⟩
    rw [List.reverse_cons]
    exact .concat (by simpa using free) '\n'
  | case4 open_ c rest _ closes ih =>
    refine List.forall_mem_cons.mpr ⟨?_, ih List.not_mem_nil List.not_mem_nil⟩
    rw [List.reverse_cons]
    exact .concat unclosed c
  | case5 open_ c rest _ inside ih =>
    have other : '\n' ≠ c := fun same => inside (same ▸ by decide)
    have longer : '\n' ∉ c :: open_ := List.not_mem_cons_of_ne_of_not_mem other free
    exact ih longer (mt List.mem_reverse.mp longer)

theorem whole_of_mem_cutLines {t line : List Char} (met : line ∈ cutLines t) : Whole '\n' line :=
  whole_of_mem_cutFrom List.not_mem_nil line met

end Text

namespace Diff

/-! ### Hunks as a reader takes them -/

/-- A hunk that is read: its header and the lines below it, with their marks. -/
@[ext]
structure ReadHunk where
  header : String
  lines : List (List Char)
  deriving DecidableEq

namespace ReadHunk

/-- The header names the spans of both texts that the lines behind the marks are. -/
def Tells (old new : List (List Char)) (h : ReadHunk) : Prop :=
  ∃ oldSpan newSpan, readHeader? h.header = some (oldSpan, newSpan) ∧
    unmarked [' ', '-'] h.lines = span old oldSpan.1 oldSpan.2 ∧
    unmarked [' ', '+'] h.lines = span new newSpan.1 newSpan.2

/-- The header counts the lines behind the marks of each text. -/
def Counted (h : ReadHunk) : Prop :=
  ∃ old new, readHeader? h.header = some (old, new) ∧
    (unmarked [' ', '-'] h.lines).length = old.2 - old.1 ∧
    (unmarked [' ', '+'] h.lines).length = new.2 - new.1

def Marked (h : ReadHunk) : Prop :=
  ∀ line ∈ h.lines, ∃ mark text, line = mark :: text ∧ mark ∈ [' ', '-', '+']

def printed (h : ReadHunk) : List (List Char) := h.header.toList :: h.lines

end ReadHunk

def nameLines (label : String) : List (List Char) :=
  [s!"--- a/{label}\n".toList, s!"+++ b/{label}\n".toList]

/-- Behind each line feed of the text begins a line: the two that name the texts, and those of the
hunks. -/
structure Reads (label : String) (t : List Char) (hs : List ReadHunk) : Prop where
  lines : Text.cutAfter '\n' t = nameLines label ++ hs.flatMap ReadHunk.printed
  counted : ∀ h ∈ hs, h.Counted
  marked : ∀ h ∈ hs, h.Marked

theorem head?_of_readHeader? {header : String} {spans : (Nat × Nat) × (Nat × Nat)}
    (read : readHeader? header = some spans) : header.toList.head? = some '@' := by
  rw [readHeader?] at read
  split at read
  · next old new pieces =>
    rw [← Text.join_cut ' ' header.toList, pieces]
    rfl
  · cases read

namespace ReadHunk

variable {h : ReadHunk} {hs ks : List ReadHunk}

theorem Counted.head? (counted : h.Counted) : h.header.toList.head? = some '@' := by
  obtain ⟨_, _, read, _⟩ := counted
  exact head?_of_readHeader? read

theorem Marked.head? (marked : h.Marked) : ∀ line ∈ h.lines, line.head? ≠ some '@' := by
  intro line met
  obtain ⟨mark, text, rfl, held⟩ := marked line met
  rintro ⟨⟩
  exact absurd held (by decide)

/-- The lines of a hunk are those up to the next header. -/
theorem takeWhile_lines (marked : h.Marked) (counted : ∀ k ∈ ks, k.Counted) :
    (h.lines ++ ks.flatMap printed).takeWhile (fun line => line.head? != some '@') = h.lines := by
  rw [List.takeWhile_append_of_pos fun line met => bne_iff_ne.mpr (marked.head? line met)]
  cases ks with
  | nil => simp
  | cons k rest =>
    have stops := (counted k List.mem_cons_self).head?
    rw [List.flatMap_cons, printed, List.cons_append, List.takeWhile_cons_of_neg (by simp [stops]),
      List.append_nil]

theorem flatMap_printed_inj (marked : ∀ h ∈ hs, h.Marked) (counted : ∀ h ∈ hs, h.Counted)
    (marked' : ∀ k ∈ ks, k.Marked) (counted' : ∀ k ∈ ks, k.Counted)
    (same : hs.flatMap printed = ks.flatMap printed) : hs = ks := by
  induction hs generalizing ks with
  | nil =>
    cases ks with
    | nil => rfl
    | cons k rest => cases same
  | cons h more ih =>
    cases ks with
    | nil => cases same
    | cons k rest =>
      obtain ⟨own_marked, marked⟩ := List.forall_mem_cons.mp marked
      obtain ⟨_, counted⟩ := List.forall_mem_cons.mp counted
      obtain ⟨own_marked', marked'⟩ := List.forall_mem_cons.mp marked'
      obtain ⟨_, counted'⟩ := List.forall_mem_cons.mp counted'
      simp only [List.flatMap_cons, printed, List.cons_append, List.cons.injEq] at same
      obtain ⟨header, below⟩ := same
      have lines : h.lines = k.lines := by
        rw [← takeWhile_lines own_marked counted, below, takeWhile_lines own_marked' counted']
      rw [lines] at below
      rw [ih marked counted marked' counted' (List.append_cancel_left below),
        ReadHunk.ext (String.toList_inj.mp header) lines]

end ReadHunk

/-- No text is read in two ways. -/
theorem Reads.unique {label : String} {t : List Char} {hs ks : List ReadHunk}
    (reads : Reads label t hs) (reads' : Reads label t ks) : hs = ks := by
  have same := reads.lines.symm.trans reads'.lines
  exact ReadHunk.flatMap_printed_inj reads.marked reads.counted reads'.marked reads'.counted
    (List.append_cancel_left same)

/-! ### Hunks as they are made -/

section
variable {old new : List (List Char)} {limit : Nat} {h : Hunk}

theorem mem_unmarked {marks : List Char} {mark : Char} {text : List Char}
    {lines : List (List Char)} (held : mark ∈ marks) (met : mark :: text ∈ lines) :
    text ∈ unmarked marks lines :=
  List.mem_filterMap.mpr ⟨_, met, if_pos held⟩

/-- The header of a hunk and its lines. -/
def Hunk.shown (old new : List (List Char)) (h : Hunk) : ReadHunk := ⟨h.header, h.body old new⟩

namespace Hunk.Shows

theorem tells (shows : h.Shows old new limit) : (h.shown old new).Tells old new :=
  ⟨_, _, shows.header, shows.old_lines, shows.new_lines⟩

theorem counted (shows : h.Shows old new limit) : (h.shown old new).Counted := by
  obtain ⟨_, old_stop, _, new_stop⟩ := shows.within
  refine ⟨_, _, shows.header, ?_, ?_⟩
  · rw [Hunk.shown, shows.old_lines, length_span, Nat.min_eq_left old_stop]
  · rw [Hunk.shown, shows.new_lines, length_span, Nat.min_eq_left new_stop]

theorem text_mem (shows : h.Shows old new limit) {mark : Char} {text : List Char}
    (met : mark :: text ∈ h.body old new) : text ∈ old ++ new := by
  have old_text : mark ∈ [' ', '-'] → text ∈ old := fun held => by
    have within := mem_unmarked held met
    rw [shows.old_lines] at within
    exact List.mem_of_mem_take (List.mem_of_mem_drop within)
  have new_text : mark ∈ [' ', '+'] → text ∈ new := fun held => by
    have within := mem_unmarked held met
    rw [shows.new_lines] at within
    exact List.mem_of_mem_take (List.mem_of_mem_drop within)
  obtain ⟨_, _, same, held⟩ := shows.marks _ met
  obtain ⟨rfl, rfl⟩ := List.cons.inj same
  rw [List.mem_append]
  grind

end Hunk.Shows

theorem nameLines_closed {label : String} (plain : '\n' ∉ label.toList) :
    ∀ line ∈ nameLines label, Text.Closed '\n' line := by
  have closed : ∀ front : String, '\n' ∉ front.toList →
      Text.Closed '\n' (front ++ label ++ "\n").toList := fun front free =>
    ⟨front.toList ++ label.toList, by simp [String.toList_append], by simp [free, plain]⟩
  refine List.forall_mem_cons.mpr ⟨closed "--- a/" (by decide), ?_⟩
  exact List.forall_mem_cons.mpr ⟨closed "+++ b/" (by decide), by simp⟩

theorem Hunk.header_closed (h : Hunk) : Text.Closed '\n' h.header.toList := by
  have free := fun start stop =>
    not_mem_spanText start stop (show '\n'.isDigit = false from rfl) (by decide)
  refine ⟨"@@ -".toList ++ (spanText h.oldStart h.oldStop).toList ++ " +".toList ++
    (spanText h.newStart h.newStop).toList ++ " @@".toList, ?_, by simp [free]⟩
  simp [Hunk.header, String.toList_append, toString]

/-- A mark in front of a line does not cut it. -/
theorem Hunk.Shows.printed_whole (shows : h.Shows old new limit)
    (whole : ∀ line ∈ old ++ new, Text.Whole '\n' line) :
    ∀ line ∈ (h.shown old new).printed, Text.Whole '\n' line := by
  refine List.forall_mem_cons.mpr ⟨h.header_closed.whole, fun line held => ?_⟩
  obtain ⟨mark, text, rfl, mark_mem⟩ := shows.marks line held
  refine (whole text (shows.text_mem held)).cons ?_
  rintro rfl
  exact absurd mark_mem (by decide)

variable {hs : List Hunk}

theorem toList_hunksText {label : String} (filled : hs ≠ []) :
    (hunksText label old new hs).toList =
      (nameLines label ++ (hs.map (Hunk.shown old new)).flatMap ReadHunk.printed).flatten := by
  have names : (s!"--- a/{label}\n+++ b/{label}\n").toList = (nameLines label).flatten := by
    simp [nameLines, String.toList_append, toString]
  rw [hunksText, String.toList_append, names, String.toList_join, List.flatten_append]
  · simp only [List.flatMap_map, ← List.flatMap_id, List.flatMap_assoc]
    simp [Hunk.shown, ReadHunk.printed]
  · exact fun none => filled none

/-- The lines that are printed before the last one end in a line feed if those of the hunks do. -/
theorem ends_dropLast_printed {label : String} (plain : '\n' ∉ label.toList)
    (shows : ∀ h ∈ hs, h.Shows old new limit) (filled : hs ≠ []) :
    (∀ line ∈ (nameLines label ++ (hs.map (Hunk.shown old new)).flatMap ReadHunk.printed).dropLast,
      line.getLast? = some '\n') ↔
      ∀ line ∈ (hs.flatMap (Hunk.body old new)).dropLast, line.getLast? = some '\n' := by
  -- The last hunk changes something, so that the last line of all is one of its lines.
  obtain ⟨front, last, rfl⟩ := (List.eq_nil_or_concat' hs).resolve_left filled
  obtain ⟨line, met, _⟩ := (shows last (by simp)).changes
  obtain ⟨init, final, body⟩ := (List.eq_nil_or_concat' _).resolve_left (List.ne_nil_of_mem met)
  have lines : (front ++ [last]).flatMap (Hunk.body old new) =
      front.flatMap (Hunk.body old new) ++ init ++ [final] := by simp [body]
  have printed : nameLines label ++ ((front ++ [last]).map (Hunk.shown old new)).flatMap
      ReadHunk.printed = nameLines label ++ (front.map (Hunk.shown old new)).flatMap
        ReadHunk.printed ++ last.header.toList :: init ++ [final] := by
    simp [Hunk.shown, ReadHunk.printed, body]
  have names := fun line met => (nameLines_closed plain line met).ends
  have header := fun h : Hunk => h.header_closed.ends
  rw [lines, printed, List.dropLast_concat, List.dropLast_concat]
  simp only [List.forall_mem_append, List.forall_mem_flatMap, List.forall_mem_map, Hunk.shown,
    ReadHunk.printed, List.forall_mem_cons, header, true_and]
  rw [and_iff_right names]

/-- Lines with a line feed at most at their end are read as the hunks they were made for, if and
only if all of them but the last have one. -/
theorem reads_hunksText_iff {label : String} (plain : '\n' ∉ label.toList)
    (shows : ∀ h ∈ hs, h.Shows old new limit) (whole : ∀ line ∈ old ++ new, Text.Whole '\n' line)
    (filled : hs ≠ []) :
    Reads label (hunksText label old new hs).toList (hs.map (Hunk.shown old new)) ↔
      ∀ line ∈ (hs.flatMap (Hunk.body old new)).dropLast, line.getLast? = some '\n' := by
  have counted : ∀ h ∈ hs.map (Hunk.shown old new), h.Counted :=
    List.forall_mem_map.mpr fun h met => (shows h met).counted
  have marked : ∀ h ∈ hs.map (Hunk.shown old new), h.Marked :=
    List.forall_mem_map.mpr fun h met => (shows h met).marks
  have below : ∀ h ∈ hs.map (Hunk.shown old new), ∀ line ∈ h.printed, Text.Whole '\n' line :=
    List.forall_mem_map.mpr fun h met => (shows h met).printed_whole whole
  have printed : ∀ line ∈ nameLines label ++
      (hs.map (Hunk.shown old new)).flatMap ReadHunk.printed, Text.Whole '\n' line := by
    refine List.forall_mem_append.mpr ⟨fun line met => (nameLines_closed plain line met).whole, ?_⟩
    intro line met
    obtain ⟨h, held, met⟩ := List.mem_flatMap.mp met
    exact below h held line met
  rw [← ends_dropLast_printed plain shows filled, ← Text.cutAfter_flatten_iff printed,
    ← toList_hunksText filled]
  exact ⟨Reads.lines, fun lines => ⟨lines, counted, marked⟩⟩

end

/-- The hunks of two texts, as a diff of them is meant to be read. -/
def shownHunks (old new : List Char) (context : Int) : List ReadHunk :=
  (hunks context.toNat (Text.cutLines old) (Text.cutLines new)).map
    (Hunk.shown (Text.cutLines old) (Text.cutLines new))

/-- A diff is read as its hunks, and only as them, if and only if all the lines in it but the last
end in a line feed; they do if the lines of both texts do. -/
theorem reads_unified_iff {old new : List Char} {label : String} {context : Int}
    (plain : '\n' ∉ label.toList) (differ : unified old new label context ≠ "") :
    ((∀ hs, Reads label (unified old new label context).toList hs ↔
        hs = shownHunks old new context) ↔
      ∀ line ∈ ((shownHunks old new context).flatMap ReadHunk.lines).dropLast,
        line.getLast? = some '\n') ∧
    ((∀ line ∈ Text.cutLines old ++ Text.cutLines new, line.getLast? = some '\n') →
      ∀ line ∈ (shownHunks old new context).flatMap ReadHunk.lines, line.getLast? = some '\n') ∧
    ∀ h ∈ shownHunks old new context, h.Tells (Text.cutLines old) (Text.cutLines new) := by
  have text : unified old new label context = hunksText label (Text.cutLines old)
      (Text.cutLines new) (hunks context.toNat (Text.cutLines old) (Text.cutLines new)) := rfl
  have shows := (hunks_describe context.toNat (Text.cutLines old) (Text.cutLines new)).shows
  have filled : hunks context.toNat (Text.cutLines old) (Text.cutLines new) ≠ [] := by
    rwa [text, ne_eq, hunksText_eq_empty_iff] at differ
  have whole : ∀ line ∈ Text.cutLines old ++ Text.cutLines new, Text.Whole '\n' line :=
    List.forall_mem_append.mpr
      ⟨fun _ => Text.whole_of_mem_cutLines, fun _ => Text.whole_of_mem_cutLines⟩
  have lines : (shownHunks old new context).flatMap ReadHunk.lines =
      (hunks context.toNat (Text.cutLines old) (Text.cutLines new)).flatMap
        (Hunk.body (Text.cutLines old) (Text.cutLines new)) := List.flatMap_map ..
  have reads_iff := reads_hunksText_iff plain shows whole filled
  rw [← text, ← lines] at reads_iff
  refine ⟨?_, ?_, List.forall_mem_map.mpr fun h met => (shows h met).tells⟩
  · rw [← reads_iff]
    constructor
    · exact fun only => (only _).mpr rfl
    · intro reads hs
      exact ⟨fun reads' => reads'.unique reads, fun same => same ▸ reads⟩
  · intro ends line met
    rw [lines] at met
    obtain ⟨h, held, met⟩ := List.mem_flatMap.mp met
    obtain ⟨mark, text, rfl, _⟩ := (shows h held).marks line met
    rw [List.getLast?_cons, ends text ((shows h held).text_mem met), Option.getD_some]

/-- Boundaries of two code points are within a line, and the last line may have none. -/
theorem reads_unified_iff_with_open_last_line :
    '\n' ∉ "doc".toList ∧
      unified "a\r\nb\n".toList "a\r\nc".toList "doc" 3 ≠ "" ∧
      ∀ hs, Reads "doc" (unified "a\r\nb\n".toList "a\r\nc".toList "doc" 3).toList hs ↔
        hs = [⟨"@@ -1,2 +1,2 @@\n", [" a\r\n".toList, "-b\n".toList, "+c".toList]⟩] := by
  have plain : '\n' ∉ "doc".toList := by decide
  have differ : unified "a\r\nb\n".toList "a\r\nc".toList "doc" 3 ≠ "" := by decide +kernel
  have shown : shownHunks "a\r\nb\n".toList "a\r\nc".toList 3 =
      [⟨"@@ -1,2 +1,2 @@\n", [" a\r\n".toList, "-b\n".toList, "+c".toList]⟩] := by decide +kernel
  have reads := (reads_unified_iff plain differ).1
  rw [shown] at reads
  exact ⟨plain, differ, reads.mpr (by decide)⟩

/-- A last line of the old text without a boundary is joined to the line below it. -/
theorem not_reads_joined_line :
    '\n' ∉ "doc".toList ∧ unified "ab".toList "a".toList "doc" 3 ≠ "" ∧
      ¬∃ hs, Reads "doc" (unified "ab".toList "a".toList "doc" 3).toList hs := by
  refine ⟨by decide, by decide +kernel, ?_⟩
  rintro ⟨hs, reads⟩
  have cut : Text.cutAfter '\n' (unified "ab".toList "a".toList "doc" 3).toList =
      nameLines "doc" ++ ["@@ -1 +1 @@\n".toList, "-ab+a".toList] := by decide +kernel
  have printed := List.append_cancel_left (cut.symm.trans reads.lines)
  cases hs with
  | nil => cases printed
  | cons h rest =>
    obtain ⟨marked, _⟩ := List.forall_mem_cons.mp reads.marked
    obtain ⟨counted, later⟩ := List.forall_mem_cons.mp reads.counted
    rw [List.flatMap_cons, ReadHunk.printed, List.cons_append, List.cons.injEq] at printed
    obtain ⟨header, below⟩ := printed
    have lines := ReadHunk.takeWhile_lines marked later
    rw [← below] at lines
    obtain ⟨old, new, read, _, added⟩ := counted
    rw [← String.toList_inj.mp header] at read
    have made : Hunk.header [⟨false, 0, 1, 0, 1⟩] = "@@ -1 +1 @@\n" := by decide +kernel
    have spans := Hunk.readHeader?_header [⟨false, 0, 1, 0, 1⟩] (by decide) (by decide)
    rw [made] at spans
    obtain ⟨rfl, rfl⟩ := Prod.mk.inj (Option.some.inj (spans.symm.trans read))
    rw [← lines] at added
    exact absurd added (by decide)

end Diff

end OpenDocs
