import OpenDocs.Proofs.Outline.Payload
import OpenDocs.Web.Service

/-!
# What can be sent

A value is sent unless something in it is torn or a float without a value, and such a thing comes
from outside only. What the service makes itself consists of texts and whole numbers.
-/

namespace OpenDocs

namespace Json

/-- The kind takes in whatever an answer is made of. -/
structure TakesIn (kind : Json → Bool) : Prop where
  null : kind .null = true
  text : ∀ s, kind (.text s) = true
  int : ∀ n, kind (.int n) = true

/-- There is nothing in the value but texts, whole numbers and null. -/
def Made (v : Json) : Prop := ∀ kind, TakesIn kind → v.every kind = true

theorem everyItem_iff {kind : Json → Bool} {items : List Json} :
    everyItem kind items = true ↔ ∀ v ∈ items, v.every kind = true := by
  induction items with
  | nil => simp [everyItem]
  | cons v rest ih => simp [everyItem, ih]

theorem everyField_iff {kind : Json → Bool} {fields : List (String × Json)} :
    everyField kind fields = true ↔ ∀ e ∈ fields, e.2.every kind = true := by
  induction fields with
  | nil => simp [everyField]
  | cons e rest ih => simp [everyField, ih]

theorem made_null : Made .null := fun kind takes => by rw [every, takes.null] <;> simp

theorem made_text (s : String) : Made (.text s) := fun kind takes => by
  rw [every, takes.text] <;> simp

theorem made_int (n : Int) : Made (.int n) := fun kind takes => by rw [every, takes.int] <;> simp

theorem made_list {items : List Json} (made : ∀ v ∈ items, Made v) : Made (.list items) :=
  fun kind takes => by
    rw [every, everyItem_iff]
    exact fun v listed => made v listed kind takes

theorem made_record {fields : List (String × Json)} (made : ∀ e ∈ fields, Made e.2) :
    Made (.record fields) := fun kind takes => by
  rw [every, everyField_iff]
  exact fun e listed => made e listed kind takes

theorem made_ofPosition (line character : Int) : Made (ofPosition line character) := by
  refine made_record ?_
  simp [made_int]

theorem made_nats (xs : List Nat) : Made (nats xs) := by
  refine made_list ?_
  simp [made_int]

end Json

open Json

theorem Position.made_report (p : Position) : p.report.Made := made_ofPosition _ _

theorem Range.made_report (r : Range) : r.report.Made := by
  refine made_record ?_
  simp [Position.made_report]

theorem RangeFlaw.made_details (f : RangeFlaw) : ∀ e ∈ f.details, e.2.Made := by
  intro e listed
  simp only [details, List.mem_append, List.mem_singleton, Option.mem_toList, Option.map_eq_some_iff]
    at listed
  rcases listed with (rfl | ⟨_, _, rfl⟩) | ⟨_, _, rfl⟩
  · exact made_text _
  · exact made_ofPosition _ _
  · exact made_int _

theorem Problem.made_report (p : Problem) : p.report.Made := by
  have details : ∀ e ∈ p.details, e.2.Made := by
    cases p with
    | general message => simp [Problem.details]
    | noSuchTab identifier message => simp [Problem.details, made_text]
    | range flaw => exact flaw.made_details
    | symbol flaw path =>
      rw [Problem.details]
      split
      · simp
      · simp [made_nats]
  refine made_record ?_
  simp only [List.forall_mem_append, List.forall_mem_cons, made_text, true_and]
  refine ⟨by simp, ?_⟩
  split
  · simp
  · simp [made_record details]

namespace Outline

mutual

theorem Node.made_report : (node : Node) → node.report.Made
  | ⟨name, kind, range, children⟩ => by
    rw [Node.report]
    refine made_record ?_
    simp [made_text, range.made_report, made_list (made_of_mem_reports children)]

theorem made_of_mem_reports : (nodes : List Node) → ∀ v ∈ reports nodes, v.Made
  | [] => by simp [reports]
  | node :: rest => by
    simp only [reports, List.forall_mem_cons]
    exact ⟨node.made_report, made_of_mem_reports rest⟩

end

end Outline

namespace Web

variable {j : Json} {response : Response} {log : List Entry} {f : Failure}

theorem jsonUnsent?_of_made (made : j.Made) : jsonUnsent? j = none := by
  have finite : j.isFinite = true := made _ ⟨rfl, fun _ => rfl, fun _ => rfl⟩
  have whole : j.isWhole = true := made _ ⟨rfl, fun _ => rfl, fun _ => rfl⟩
  simp [jsonUnsent?, finite, whole]

theorem made_editReport (p : Preview) : (editReport p).Made := by
  refine made_record ?_
  cases p.path <;> simp [made_text, made_null]

/-- The response is none that cannot be sent. -/
def Response.Sendable (response : Response) : Prop := response.body.unsent? = none

theorem sendable_text (status : Nat) (s : String) : (Response.text status s).Sendable := rfl

theorem sendable_json (status : Nat) (made : j.Made) : (Response.json status j).Sendable :=
  jsonUnsent?_of_made made

/-- What is said of a failure can be sent. -/
theorem sendable_of_conclude {note apology : String} {result : Except Failure Response}
    (sendable : ∀ told, result = .ok told → told.Sendable)
    (concluded : conclude note apology result = (.ok response, log)) : response.Sendable := by
  cases result with
  | ok told =>
    obtain rfl := Except.ok.inj (Prod.mk.inj concluded).1
    exact sendable told rfl
  | error f =>
    cases f with
    | problem p =>
      cases p with
      | general message => cases concluded
      | noSuchTab | range | symbol =>
        cases concluded
        exact sendable_json _ (Problem.made_report _)
    | unnamed identifier => cases concluded
    | fault | refused | unsent | mishap =>
      cases concluded
      exact sendable_text _ _

/-- No failure is concluded with the status of success. -/
theorem status_conclude_error {note apology : String} {f : Failure} {response : Response}
    {log : List Entry} (concluded : conclude note apology (.error f) = (.ok response, log)) :
    response.status ≠ 200 := by
  cases f with
  | problem p => cases p <;> cases concluded <;> simp [Response.json]
  | unnamed => cases concluded
  | fault | refused | unsent | mishap => cases concluded; simp [Response.text]

theorem sent_ok (sendable : response.Sendable) : sent (.ok response, log) = (.ok response, log) := by
  simp only [sent]
  rw [sendable]

theorem sent_error : sent (.error f, log) = (.error f, log) := rfl

end Web

end OpenDocs
