import PagePilot.Failure

/-!
# Runs

Computations that change a state and may stop before their end. The state reached by then is kept:
what a stopped run has done is not undone.

## Main definitions

- `Run` - a computation over a state
- `Run.fail` - stops with a failure
- `Run.attempt` - hands a failure over instead of stopping
- `Run.onFailure` - changes the state before stopping with a failure
-/

namespace PagePilot

/-- A computation over a state of type `ω` that gives an `α` or stops. -/
abbrev Run (ω α : Type) := EStateM Stop ω α

namespace Run

variable {ω α β : Type}

/-- Stops with a failure. -/
def fail (failure : Failure) : Run ω α := throw (.failed failure)

/-- Runs and gives the failure, if that is what it stops with. Other stops pass. -/
def attempt (run : Run ω α) : Run ω (Except Failure α) := fun w =>
  match run.run w with
  | .ok a w => .ok (.ok a) w
  | .error (.failed failure) w => .ok (.error failure) w
  | .error stop w => .error stop w

/-- Runs, and if it fails, changes the state before stopping with the failure. -/
def onFailure (run : Run ω α) (change : Failure → ω → ω) : Run ω α := fun w =>
  match run.run w with
  | .ok a w => .ok a w
  | .error (.failed failure) w => .error (.failed failure) (change failure w)
  | .error stop w => .error stop w

/-- Gives a value or stops with a failure. -/
def ofExcept : Except Failure α → Run ω α
  | .ok a => pure a
  | .error failure => fail failure

@[simp] theorem run_fail (failure : Failure) (w : ω) :
    (fail failure : Run ω α).run w = .error (.failed failure) w := rfl

theorem run_bind_of_ok {run : Run ω α} {next : α → Run ω β} {w w₁ : ω} {a : α}
    (h : run.run w = .ok a w₁) : (run >>= next).run w = (next a).run w₁ := by
  rw [EStateM.run_bind, h]

theorem run_bind_of_error {run : Run ω α} {next : α → Run ω β} {w w₁ : ω} {stop : Stop}
    (h : run.run w = .error stop w₁) : (run >>= next).run w = .error stop w₁ := by
  rw [EStateM.run_bind, h]

theorem run_map_of_ok {run : Run ω α} {f : α → β} {w w₁ : ω} {a : α}
    (h : run.run w = .ok a w₁) : (f <$> run).run w = .ok (f a) w₁ := by
  rw [map_eq_pure_bind, run_bind_of_ok h, EStateM.run_pure]

theorem run_map_of_error {run : Run ω α} {f : α → β} {w w₁ : ω} {stop : Stop}
    (h : run.run w = .error stop w₁) : (f <$> run).run w = .error stop w₁ := by
  rw [map_eq_pure_bind, run_bind_of_error h]

theorem run_attempt_of_ok {run : Run ω α} {w w₁ : ω} {a : α} (h : run.run w = .ok a w₁) :
    (attempt run).run w = .ok (.ok a) w₁ := by
  simp only [attempt, EStateM.run] at h ⊢
  rw [h]

theorem run_attempt_of_failed {run : Run ω α} {w w₁ : ω} {failure : Failure}
    (h : run.run w = .error (.failed failure) w₁) :
    (attempt run).run w = .ok (.error failure) w₁ := by
  simp only [attempt, EStateM.run] at h ⊢
  rw [h]

theorem run_attempt_of_stop {run : Run ω α} {w w₁ : ω} {stop : Stop}
    (h : run.run w = .error stop w₁) (hstop : ∀ failure, stop ≠ .failed failure) :
    (attempt run).run w = .error stop w₁ := by
  simp only [attempt, EStateM.run] at h ⊢
  rw [h]
  cases stop with
  | failed failure => exact absurd rfl (hstop failure)
  | clockOverflow => rfl
  | exhausted => rfl

theorem run_onFailure_of_ok {run : Run ω α} {change : Failure → ω → ω} {w w₁ : ω} {a : α}
    (h : run.run w = .ok a w₁) : (onFailure run change).run w = .ok a w₁ := by
  simp only [onFailure, EStateM.run] at h ⊢
  rw [h]

theorem run_onFailure_of_failed {run : Run ω α} {change : Failure → ω → ω} {w w₁ : ω}
    {failure : Failure} (h : run.run w = .error (.failed failure) w₁) :
    (onFailure run change).run w = .error (.failed failure) (change failure w₁) := by
  simp only [onFailure, EStateM.run] at h ⊢
  rw [h]

theorem run_onFailure_of_stop {run : Run ω α} {change : Failure → ω → ω} {w w₁ : ω} {stop : Stop}
    (h : run.run w = .error stop w₁) (hstop : ∀ failure, stop ≠ .failed failure) :
    (onFailure run change).run w = .error stop w₁ := by
  simp only [onFailure, EStateM.run] at h ⊢
  rw [h]
  cases stop with
  | failed failure => exact absurd rfl (hstop failure)
  | clockOverflow => rfl
  | exhausted => rfl

end Run

end PagePilot
