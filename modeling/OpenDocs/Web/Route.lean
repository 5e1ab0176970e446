import OpenDocs.Web.Message

/-!
# Routes

The first route whose path fits and whose method is that of the request is taken. Where only paths
fit, the first of them tells the method that would be allowed. The paths of a document, of its
symbols and of edits lead to their routes whatever the document is called.
-/

namespace OpenDocs.Web

inductive Route where
  | index
  | asset
  | documents
  | document (name : String)
  | symbols (name : String)
  | edit
  deriving DecidableEq

def assetPaths : List String := ["/.well-known/ai-plugin.json", "/openapi.yaml", "/logo.jpg"]

/-- Whether a text is at its end, but perhaps for a line feed. -/
def atEnd (cs : List Char) : Bool := cs.isEmpty || cs == ['\n']

def isPath (path : String) (cs : List Char) : Bool :=
  path.toList.isPrefixOf cs && atEnd (cs.drop path.length)

/-- The segment after that of the tabs, and what follows it. -/
def tabSegment? (cs : List Char) : Option (String × List Char) :=
  let start := "/tabs/".toList
  let rest := cs.drop start.length
  let name := rest.takeWhile (· != '/')
  if start.isPrefixOf cs && !name.isEmpty then
    some (String.ofList name, rest.dropWhile (· != '/'))
  else none

/-- The routes that a path fits, with their methods, in the order in which they are tried. -/
def routesFor (path : String) : List (String × Route) :=
  let cs := path.toList
  let fixed (path : String) (route : Route) (method : String) : List (String × Route) :=
    if isPath path cs then [(method, route)] else []
  let named : List (String × Route) :=
    match tabSegment? cs with
    | some (name, []) => [("GET", .document name)]
    | some (name, rest) => if isPath "/symbols" rest then [("GET", .symbols name)] else []
    | none => []
  fixed "/" .index "GET" ++ assetPaths.flatMap (fixed · .asset "GET")
    ++ fixed "/tabs" .documents "GET" ++ named ++ fixed "/tabs/modify" .edit "POST"

inductive Destination where
  | route (r : Route)
  | otherMethod (allowed : String)
  /-- The path fits a route but for slashes at its end. -/
  | redirect (path : String)
  | nowhere

/-- The path without slashes at its end, or with one if it has none. -/
def respelled (path : String) : String :=
  if path.endsWith "/" then
    String.ofList ((path.toList.reverse.dropWhile (· == '/')).reverse)
  else path ++ "/"

def destination (method path : String) : Destination :=
  let routes := routesFor path
  match routes.lookup method with
  | some r => .route r
  | none =>
    match routes with
    | (allowed, _) :: _ => .otherMethod allowed
    | [] =>
      if path ≠ "/" && !(routesFor (respelled path)).isEmpty then .redirect (respelled path)
      else .nowhere

theorem takeWhile_append_slash {segment rest : List Char} (single : '/' ∉ segment)
    (closed : rest = [] ∨ ∃ more, rest = '/' :: more) :
    (segment ++ rest).takeWhile (· != '/') = segment ∧
      (segment ++ rest).dropWhile (· != '/') = rest := by
  have other : ∀ c ∈ segment, (c != '/') = true := by
    intro c held
    rw [bne_iff_ne]
    rintro rfl
    exact single held
  rw [List.takeWhile_append_of_pos other, List.dropWhile_append_of_pos other]
  rcases closed with rfl | ⟨more, rfl⟩ <;> simp

theorem tabSegment?_of_segment {segment rest : List Char} (filled : segment ≠ [])
    (single : '/' ∉ segment) (closed : rest = [] ∨ ∃ more, rest = '/' :: more) :
    tabSegment? ("/tabs/".toList ++ (segment ++ rest)) = some (String.ofList segment, rest) := by
  obtain ⟨front, behind⟩ := takeWhile_append_slash single closed
  have start : "/tabs/".toList.isPrefixOf ("/tabs/".toList ++ (segment ++ rest)) = true := rfl
  simp only [tabSegment?, List.drop_left, front, behind, start, Bool.true_and]
  cases segment with
  | nil => exact absurd rfl filled
  | cons c cs => rfl

/-- No path below that of the tabs is one of the paths that stand by themselves. -/
theorem not_isPath_of_below (rest : List Char) :
    ∀ path ∈ "/" :: "/tabs" :: assetPaths, isPath path ("/tabs/".toList ++ rest) = false := by
  simp only [assetPaths, List.forall_mem_cons]
  exact ⟨rfl, rfl, rfl, rfl, rfl, List.forall_mem_nil _⟩

/-- The first route of a path below that of the tabs is the one for its segment. -/
theorem destination_of_segment {path name : String} {below rest : List Char} {route : Route}
    (spelled : path.toList = "/tabs/".toList ++ below)
    (segment : tabSegment? path.toList = some (name, rest))
    (chosen : rest = [] ∧ route = .document name ∨
      rest = "/symbols".toList ∧ route = .symbols name) :
    destination "GET" path = .route route := by
  have apart := not_isPath_of_below below
  rw [← spelled, assetPaths] at apart
  simp only [List.forall_mem_cons] at apart
  obtain ⟨index, tabs, plugin, schema, picture, _⟩ := apart
  have first : ∃ more, routesFor path = ("GET", route) :: more := by
    rcases chosen with ⟨rfl, rfl⟩ | ⟨rfl, rfl⟩
    · simp [routesFor, assetPaths, index, tabs, plugin, schema, picture, segment]
    · have ends : isPath "/symbols" ['/', 's', 'y', 'm', 'b', 'o', 'l', 's'] = true := rfl
      simp [routesFor, assetPaths, index, tabs, plugin, schema, picture, segment, ends]
  obtain ⟨more, routes⟩ := first
  rw [destination, routes]
  rfl

variable {name : String}

theorem destination_document (filled : name ≠ "") (single : '/' ∉ name.toList) :
    destination "GET" ("/tabs/" ++ name) = .route (.document name) := by
  have spelled : ("/tabs/" ++ name).toList = "/tabs/".toList ++ (name.toList ++ []) := by
    rw [String.toList_append, List.append_nil]
  have segment := tabSegment?_of_segment (mt String.toList_eq_nil_iff.mp filled) single (.inl rfl)
  rw [← spelled, String.ofList_toList] at segment
  exact destination_of_segment spelled segment (.inl ⟨rfl, rfl⟩)

theorem destination_symbols (filled : name ≠ "") (single : '/' ∉ name.toList) :
    destination "GET" ("/tabs/" ++ name ++ "/symbols") = .route (.symbols name) := by
  have spelled : ("/tabs/" ++ name ++ "/symbols").toList =
      "/tabs/".toList ++ (name.toList ++ "/symbols".toList) := by
    rw [String.toList_append, String.toList_append, List.append_assoc]
  have segment := tabSegment?_of_segment (mt String.toList_eq_nil_iff.mp filled) single
    (.inr ⟨"symbols".toList, rfl⟩)
  change tabSegment? ("/tabs/".toList ++ (name.toList ++ "/symbols".toList)) = _ at segment
  rw [← spelled, String.ofList_toList] at segment
  exact destination_of_segment spelled segment (.inr ⟨rfl, rfl⟩)

theorem destination_edit : destination "POST" "/tabs/modify" = .route .edit := rfl

end OpenDocs.Web
