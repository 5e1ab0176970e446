import OpenDocs.Proofs.Outline.Payload
import OpenDocs.Proofs.Web.Routing

/-!
# The two answers for the symbols of a tab

Asked for a text or for JSON, the route for symbols tells the same outline. The text can be written
from the JSON, and both go through the same nodes in the same order. For JSON there has to be room
for all levels of the outline, while a text is written of any outline.
-/

namespace OpenDocs.Web

open Json Outline

/-- A request for the symbols of a tab, in one of the formats. -/
structure AsksSymbols (name : String) (formats : List (Option String)) (r : Request) : Prop where
  filled : name ≠ ""
  single : '/' ∉ name.toList
  method : r.method = "GET"
  path : r.path = "/tabs/" ++ name ++ "/symbols"
  format : parameter? r.query "format" ∈ formats

section

variable {State : Type} {b : Backend State} {config : Config} {s : State} {r : Request}
  {name : String}

/-- The outline that both answers tell, or the failure that both conclude. -/
def outlineOf (b : Backend State) (config : Config) (s : State) (name : String) :
    Except Failure (List Node) :=
  b.symbols s name >>= (flatten · config.depth)

theorem answerSymbols_eq {json : Bool} (asked : parameter? r.query "format" ∈ formats json) :
    answerSymbols b config s r name = match outlineOf b config s name with
      | .error f =>
        conclude s!"Failed to resolve symbols for {name}" "Failed to get symbols" (.error f)
      | .ok nodes => ((display json nodes).mapError .mishap, []) := by
  rw [answerSymbols, config.framework.format_of_query asked]
  rfl

theorem display_text {nodes : List Node} (short : anyLong nodes = false) :
    display false nodes = .ok (.text 200 (render nodes "")) := by
  simp [display, short]

theorem display_json {nodes : List Node} (short : anyLong nodes = false)
    (low : height nodes ≤ reportRoom) :
    display true nodes = .ok (.json 200 (.list (reports nodes))) := by
  have fits := reportsWithin_eq_some_iff.mpr ⟨low, rfl⟩
  simp [display, short, fits]

theorem display_long {json : Bool} {nodes : List Node} (long : anyLong nodes = true) :
    display json nodes = .error .longNumber := by
  simp [display, long]

theorem display_high {nodes : List Node} (short : anyLong nodes = false)
    (high : ¬ height nodes ≤ reportRoom) : display true nodes = .error .nesting := by
  have none : reportsWithin reportRoom nodes = none :=
    Option.eq_none_iff_forall_ne_some.mpr fun values made =>
      high (reportsWithin_eq_some_iff.mp made).1
  simp [display, short, none]

/-- What can be displayed can be sent. -/
theorem sendable_of_display {json : Bool} {nodes : List Node} {response : Response}
    (displayed : display json nodes = .ok response) :
    response.Sendable ∧ response.status = 200 := by
  unfold display at displayed
  split at displayed
  · cases displayed
  · split at displayed
    · split at displayed
      · next values made =>
        obtain ⟨_, rfl⟩ := reportsWithin_eq_some_iff.mp made
        cases displayed
        exact ⟨sendable_json 200 (made_list (made_of_mem_reports nodes)), rfl⟩
      · cases displayed
    · cases displayed
      exact ⟨sendable_text 200 _, rfl⟩

/-- What a request for symbols gets: the outline that is displayed, or a failure. -/
theorem serve_symbols (b : Backend State) (config : Config) (s : State) {json : Bool}
    (asks : AsksSymbols name (formats json) r) :
    let response := (serve b config s r).1.response
    (∀ nodes told, outlineOf b config s name = .ok nodes → display json nodes = .ok told →
      response.status = 200 ∧ response.body = told.body) ∧
    (response.status = 200 →
      ∃ nodes told, outlineOf b config s name = .ok nodes ∧ display json nodes = .ok told) := by
  have direct : config.framework.preflight? r = none :=
    config.framework.preflight?_of_method (by rw [asks.method]; decide)
  have routed : answer b config s r = (answerSymbols b config s r name, s) := by
    rw [answer, asks.method, asks.path,
      config.framework.destination_symbols asks.filled asks.single]
    rfl
  rw [answerSymbols_eq asks.format] at routed
  cases found : outlineOf b config s name with
  | error f =>
    rw [found] at routed
    have failed := serve_of_conclude_error direct routed
    refine ⟨fun nodes told same => ?_, fun accepted => absurd accepted failed⟩
    cases same
  | ok nodes =>
    rw [found] at routed
    cases displayed : display json nodes with
    | error m =>
      simp only [displayed, Except.mapError] at routed
      refine ⟨fun others told same shown => ?_, fun accepted => ?_⟩
      · obtain rfl := Except.ok.inj same
        cases displayed.symm.trans shown
      · rw [serve_of_failure direct routed] at accepted
        cases accepted
    | ok told =>
      obtain ⟨sendable, success⟩ := sendable_of_display displayed
      simp only [displayed, Except.mapError] at routed
      refine ⟨fun others told' same shown => ?_, fun _ => ⟨nodes, told, rfl, displayed⟩⟩
      obtain rfl := Except.ok.inj same
      obtain rfl := Except.ok.inj (displayed.symm.trans shown)
      rw [serve_of_answer direct sendable routed]
      exact ⟨config.framework.confirm_status.trans success, config.framework.confirm_body⟩

theorem serve_text_iff (b : Backend State) (config : Config) (s : State)
    (asks : AsksSymbols name (formats false) r) : (serve b config s r).1.response.status = 200 ↔
      ∃ nodes, outlineOf b config s name = .ok nodes ∧ anyLong nodes = false := by
  obtain ⟨tells, told_of⟩ := serve_symbols b config s asks
  constructor
  · intro accepted
    obtain ⟨nodes, _, found, displayed⟩ := told_of accepted
    refine ⟨nodes, found, Bool.eq_false_iff.mpr fun long => ?_⟩
    cases (display_long long).symm.trans displayed
  · rintro ⟨nodes, found, short⟩
    exact (tells nodes _ found (display_text short)).1

theorem serve_json_iff (b : Backend State) (config : Config) (s : State)
    (asks : AsksSymbols name (formats true) r) : (serve b config s r).1.response.status = 200 ↔
      ∃ nodes, outlineOf b config s name = .ok nodes ∧ anyLong nodes = false ∧
        height nodes ≤ reportRoom := by
  obtain ⟨tells, told_of⟩ := serve_symbols b config s asks
  constructor
  · intro accepted
    obtain ⟨nodes, _, found, displayed⟩ := told_of accepted
    have short : anyLong nodes = false := Bool.eq_false_iff.mpr fun long => by
      cases (display_long long).symm.trans displayed
    refine ⟨nodes, found, short, Nat.le_of_not_lt fun high => ?_⟩
    cases (display_high short (Nat.not_le_of_lt high)).symm.trans displayed
  · rintro ⟨nodes, found, short, low⟩
    exact (tells nodes _ found (display_json short low)).1

end

/-- The JSON of an outline is gone through in the same order as the outline, with the same depths
and entries, and each node is met once in both. It is made exactly if there is room for the levels of
the outline; the text is written from it alone. These are the two answers for the symbols of a tab,
of which the one as JSON fails for more levels than there is room for. -/
theorem symbols_answers_agree (nodes : List Node) (indent : String) :
    let payload := reports nodes
    (∀ room values, reportsWithin room nodes = some values ↔
      height nodes ≤ room ∧ values = payload) ∧
    (visit 0 payload).map (fun x => (x.1, Entry.ofJson? x.2)) =
      (walk 0 nodes).map (fun x => (x.1, some (Entry.ofNode x.2))) ∧
    render nodes indent =
      String.join ((walk 0 nodes).map fun x => (Entry.ofNode x.2).line indent x.1) ∧
    textOf? indent payload = some (render nodes indent) ∧
    (∃ places, MeetsAll Node.children nodes places (walk 0 nodes) ∧
      MeetsAll Json.nested payload places (visit 0 payload)) ∧
    ∀ {State : Type} (b : Backend State) (config : Config) (s : State) (name : String)
      (r r' : Request), AsksSymbols name (formats false) r → AsksSymbols name (formats true) r' →
      let shown := (serve b config s r).1.response
      let listed := (serve b config s r').1.response
      (shown.status = 200 ↔
        ∃ told, outlineOf b config s name = .ok told ∧ anyLong told = false) ∧
      (listed.status = 200 ↔ shown.status = 200 ∧
        ∀ told, outlineOf b config s name = .ok told → height told ≤ reportRoom) ∧
      (listed.status = 200 → ∃ values text, listed.body = .json (.list values) ∧
        shown.body = .text text.toList ∧ textOf? "" values = some text) := by
  intro payload
  refine ⟨fun room values => reportsWithin_eq_some_iff, ?_, rfl, textOf?_reports indent nodes,
    ⟨places 0 nodes, walk_meetsAll nodes, visit_meetsAll nodes⟩, ?_⟩
  · rw [visit_reports, List.map_map]
    exact List.map_congr_left fun x _ => congrArg (Prod.mk x.1) (Entry.ofJson?_report x.2)
  intro State b config s name r r' asks asks' shown listed
  have text_iff := serve_text_iff b config s asks
  have json_iff := serve_json_iff b config s asks'
  refine ⟨text_iff, ⟨fun accepted => ?_, fun ⟨accepted, low⟩ => ?_⟩, fun accepted => ?_⟩
  · obtain ⟨told, found, short, low⟩ := json_iff.mp accepted
    refine ⟨text_iff.mpr ⟨told, found, short⟩, fun other same => ?_⟩
    obtain rfl := Except.ok.inj (found.symm.trans same)
    exact low
  · obtain ⟨told, found, short⟩ := text_iff.mp accepted
    exact json_iff.mpr ⟨told, found, short, low told found⟩
  · obtain ⟨told, found, short, low⟩ := json_iff.mp accepted
    exact ⟨reports told, render told "",
      ((serve_symbols b config s asks').1 told _ found (display_json short low)).2,
      ((serve_symbols b config s asks).1 told _ found (display_text short)).2,
      textOf?_reports "" told⟩

/-- With a symbol below another, whose name looks like a line. -/
theorem symbols_answers_agree_on_nested_symbols :
    let inner : Symbol := ⟨"b [0,0-0,1]", .method, ⟨1, 0⟩, ⟨1, 4⟩, []⟩
    let raw := Symbol.toRaw [⟨"A", .class, ⟨0, 0⟩, ⟨2, 0⟩, [inner]⟩]
    let b : Backend Unit := ⟨fun _ => ⟨[], [], ⟨1, []⟩, ⟨1, []⟩, [], []⟩, fun _ => .ok .null,
      fun _ _ => .error (.refused ""), fun _ _ => .ok raw,
      fun _ _ _ _ => (.error (.refused ""), ())⟩
    let config : Config := ⟨.usual ⟨[], [], []⟩, none, some ⟨2, "2"⟩⟩
    let r : Request := ⟨"GET", "/tabs/t/symbols", "", [], [], none⟩
    let r' : Request := ⟨"GET", "/tabs/t/symbols", "format=json", [], [], none⟩
    let text := "Class A [0,0-2,0]\n  Method b [0,0-0,1] [1,0-1,4]\n"
    ∃ values, (serve b config () r').1.response.body = .json (.list values) ∧
      (serve b config () r).1.response.body = .text text.toList ∧ textOf? "" values = some text := by
  intro inner raw b config r r' text
  have asks : AsksSymbols "t" (formats false) r :=
    ⟨by decide, by decide, rfl, by decide, by decide +kernel⟩
  have asks' : AsksSymbols "t" (formats true) r' :=
    ⟨by decide, by decide, rfl, by decide, by decide +kernel⟩
  have answered : (serve b config () r').1.response.status = 200 := by decide +kernel
  obtain ⟨values, found, listed, shown, written⟩ :=
    ((symbols_answers_agree [] "").2.2.2.2.2 b config () "t" r r' asks asks').2.2 answered
  have told : (match (serve b config () r).1.response.body with | .text cs => cs | _ => []) =
      text.toList := by decide +kernel
  rw [shown] at told
  obtain rfl := String.toList_inj.mp told
  exact ⟨values, listed, shown, written⟩

/-- So many nodes, one below the other. -/
def chain : Nat → List Node
  | 0 => []
  | n + 1 => [⟨"n", .unknown, ⟨⟨0, 0⟩, ⟨0, 0⟩, by decide⟩, chain n⟩]

theorem height_chain (n : Nat) : height (chain n) = n := by
  induction n with
  | zero => rfl
  | succ n ih => rw [chain, height_cons, ih, height, Nat.max_zero]

theorem length_walk_chain (depth n : Nat) : (walk depth (chain n)).length = n := by
  induction n generalizing depth with
  | zero => rw [chain, walk_nil, List.length_nil]
  | succ n ih => rw [chain, walk_cons, walk_nil, List.append_nil, List.length_cons, ih]

/-- An outline that is gone through node by node, of which there is no JSON. -/
theorem deep_outline_has_no_json :
    (walk 0 (chain 3000)).length = 3000 ∧ reportsWithin reportRoom (chain 3000) = none := by
  refine ⟨length_walk_chain 0 3000, Option.eq_none_iff_forall_ne_some.mpr fun values made => ?_⟩
  have low := (reportsWithin_eq_some_iff.mp made).1
  rw [height_chain] at low
  exact absurd low (by decide)

end OpenDocs.Web
