import OpenDocs.Proofs.Web.Sending
import Mathlib

/-!
# From a route to its response

What the route of a request answers is the response, but for headers that confirm the origin, unless
it cannot be sent.
-/

namespace OpenDocs.Web

section

variable {State : Type} {b : Backend State} {config : Config} {s s' : State} {r : Request}
  {response : Response} {log : List Entry} {f : Failure}

theorem serve_state (direct : config.framework.preflight? r = none) :
    (serve b config s r).2 = (answer b config s r).2 := by
  rw [serve, direct]
  simp only
  split <;> rfl

/-- What is answered reaches the client with its status and body. -/
theorem serve_of_answer (direct : config.framework.preflight? r = none)
    (sendable : response.Sendable)
    (answered : answer b config s r = ((.ok response, log), s')) :
    serve b config s r = (⟨config.framework.confirm r response,
      log ++ [accessEntry r response.status], none⟩, s') := by
  simp only [serve, direct, answered, sent_ok sendable]

theorem serve_of_failure (direct : config.framework.preflight? r = none)
    (answered : answer b config s r = ((.error f, log), s')) :
    serve b config s r = (⟨.text 500 "Internal Server Error", log, some f⟩, s') := by
  simp only [serve, direct, answered, sent_error]

/-- No failure is served with the status of success. -/
theorem serve_of_conclude_error {note apology : String}
    (direct : config.framework.preflight? r = none)
    (answered : answer b config s r = (conclude note apology (.error f), s')) :
    (serve b config s r).1.response.status ≠ 200 := by
  cases told : conclude note apology (.error f) with
  | mk result log =>
    rw [told] at answered
    cases result with
    | ok response =>
      rw [serve_of_answer direct (sendable_of_conclude (by simp) told) answered]
      exact config.framework.confirm_status.trans_ne (status_conclude_error told)
    | error escaped =>
      rw [serve_of_failure direct answered]
      simp [Response.text]

end

end OpenDocs.Web
