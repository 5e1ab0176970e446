import OpenDocs.Problem

/-!
# Results of steps

A run of steps gives what its last step gives, or stops at the first that fails. What steps did to a
state before that stays done.
-/

namespace OpenDocs

variable {Why Other α β : Type} {a : α} {b : β} {why : Why}

theorem bind_eq_ok_iff {result : Except Why α} {next : α → Except Why β} :
    (result >>= next) = .ok b ↔ ∃ a, result = .ok a ∧ next a = .ok b := by
  cases result <;> simp [bind, Except.bind]

theorem bind_eq_error_iff {result : Except Why α} {next : α → Except Why β} :
    (result >>= next) = .error why ↔
      result = .error why ∨ ∃ a, result = .ok a ∧ next a = .error why := by
  cases result <;> simp [bind, Except.bind]

theorem mapError_eq_ok_iff {result : Except Why α} {tell : Why → Other} :
    result.mapError tell = .ok a ↔ result = .ok a := by
  cases result with
  | error why => exact ⟨nofun, nofun⟩
  | ok found =>
    exact ⟨fun same => congrArg _ (Except.ok.inj same), fun same => congrArg _ (Except.ok.inj same)⟩

section
variable {State : Type} (s : State)

theorem run_bind (x : ExceptT Why (StateM State) α) (f : α → ExceptT Why (StateM State) β) :
    (x >>= f).run.run s = match x.run.run s with
      | (.ok a, s) => (f a).run.run s
      | (.error why, s) => (.error why, s) := by
  unfold ExceptT.run StateT.run
  simp only [bind, ExceptT.bind, ExceptT.mk, StateT.bind, ExceptT.bindCont]
  cases x s with
  | mk result next => cases result <;> rfl

theorem run_get : (get : ExceptT Why (StateM State) State).run.run s = (.ok s, s) := rfl

theorem run_set (next : State) :
    (set next : ExceptT Why (StateM State) PUnit).run.run s = (.ok ⟨⟩, next) := rfl

theorem run_modify (f : State → State) :
    (modify f : ExceptT Why (StateM State) PUnit).run.run s = (.ok ⟨⟩, f s) := rfl

theorem run_ofExcept (x : Except Why α) :
    (MonadExcept.ofExcept x : ExceptT Why (StateM State) α).run.run s = (x, s) := by
  cases x <;> rfl

end

end OpenDocs
