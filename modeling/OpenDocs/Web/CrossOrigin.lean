import OpenDocs.Web.Message

/-!
# Requests from other origins

A browser asks in advance whether a page of another origin may make a request. The answer names the
methods and headers that are allowed; on any other request an allowed origin is confirmed.
-/

namespace OpenDocs.Web

structure Allowances where
  origins : List String
  methods : List String
  headers : List String

namespace Allowances

def anyOrigin (a : Allowances) : Bool := a.origins.contains "*"

def anyHeader (a : Allowances) : Bool := a.headers.contains "*"

def allMethods : List String := ["DELETE", "GET", "HEAD", "OPTIONS", "PATCH", "POST", "PUT"]

def allowedMethods (a : Allowances) : List String :=
  if a.methods.contains "*" then allMethods else a.methods

/-- Headers that any page may send. -/
def safeHeaders : List String :=
  ["Accept", "Accept-Language", "Content-Language", "Content-Type"]

def allowedHeaders (a : Allowances) : List String :=
  (safeHeaders ++ a.headers).eraseDups.mergeSort fun x y => decide (x ≤ y)

def allowsOrigin (a : Allowances) (origin : String) : Bool :=
  a.anyOrigin || a.origins.contains origin

def allowsHeaders (a : Allowances) (requested : String) : Bool :=
  let known := a.allowedHeaders.map Text.toLower
  (Text.pieces ',' (Text.toLower requested)).all fun h =>
    known.contains (String.ofList (Text.strip h.toList))

/-- What confirms an origin. -/
def originHeader (a : Allowances) (origin : String) : List (String × String) :=
  if a.anyOrigin then [("access-control-allow-origin", "*")]
  else if a.origins.contains origin then [("access-control-allow-origin", origin)]
  else []

def headersHeader (a : Allowances) (requested? : Option String) : List (String × String) :=
  if a.anyHeader then
    (requested?.map fun requested => ("access-control-allow-headers", requested)).toList
  else [("access-control-allow-headers", ", ".intercalate a.allowedHeaders)]

/-- The answer to a question in advance, which names what is not allowed. -/
def preflight (a : Allowances) (origin method : String) (requested? : Option String) : Response :=
  let failures :=
    (if a.allowsOrigin origin then [] else ["origin"])
      ++ (if a.allowedMethods.contains method then [] else ["method"])
      ++ (if a.anyHeader || requested?.all a.allowsHeaders then [] else ["headers"])
  let headers := originHeader a origin
    ++ [("access-control-allow-methods", ", ".intercalate a.allowedMethods)]
    ++ headersHeader a requested?
  if failures.isEmpty then ⟨200, headers, .text "OK".toList⟩
  else ⟨400, headers, .text ("Disallowed CORS " ++ ", ".intercalate failures).toList⟩

/-- The answer to a question in advance, if the request is one. -/
def preflight? (a : Allowances) (r : Request) : Option Response := do
  let origin ← r.header? "origin"
  let method ← r.header? "access-control-request-method"
  guard (r.method = "OPTIONS")
  pure (a.preflight origin method (r.header? "access-control-request-headers"))

theorem preflight?_of_method (a : Allowances) {r : Request} (other : r.method ≠ "OPTIONS") :
    a.preflight? r = none := by
  have closed : guard (r.method = "OPTIONS") = (none : Option Unit) := if_neg other
  rw [preflight?]
  cases r.header? "origin" with
  | none => rfl
  | some origin =>
    cases r.header? "access-control-request-method" with
    | none => rfl
    | some method => exact congrArg (· >>= _) closed

/-- Confirms the origin of a request on its response. -/
def confirm (a : Allowances) (r : Request) (response : Response) : Response :=
  match r.header? "origin" with
  | none => response
  | some origin => { response with headers := response.headers ++ a.originHeader origin }

/-- Only the headers of a response change. -/
theorem confirm_keeps (a : Allowances) {r : Request} {response : Response} :
    (a.confirm r response).status = response.status ∧
      (a.confirm r response).body = response.body := by
  rw [confirm]
  split <;> exact ⟨rfl, rfl⟩

end Allowances

end OpenDocs.Web
