import PagePilot.Proofs.Journal

/-!
# Runs that match

Two runs over different states match if from related states they end with the same answer in
related states. Runs that are put together in the same way from runs that match do so too.

## Main definitions

- `Run.Matches` - from related states, two runs answer the same and lead to related states

## Main statements

- `Run.Matches.bind` - runs one after the other
- `Run.Matches.pollUntil` - waits
-/

namespace PagePilot

variable {ω ω' α β : Type}

namespace Run

/-- From related states, the runs end with the same answer in related states. -/
def Matches (rel : ω → ω' → Prop) (run : Run ω α) (run' : Run ω' α) : Prop :=
  ∀ w w', rel w w' → ∃ answer v v', run.run w = ending answer v ∧ run'.run w' = ending answer v' ∧
    rel v v'

namespace Matches

variable {rel : ω → ω' → Prop} {run : Run ω α} {run' : Run ω' α}

theorem pure (a : α) : Matches rel (Pure.pure a : Run ω α) (Pure.pure a : Run ω' α) := by
  intro w w' hrel
  exact ⟨.ok a, w, w', rfl, rfl, hrel⟩

theorem throw (stop : Stop) :
    Matches rel (MonadExcept.throw stop : Run ω α) (MonadExcept.throw stop : Run ω' α) := by
  intro w w' hrel
  exact ⟨.error stop, w, w', rfl, rfl, hrel⟩

theorem bind {next : α → Run ω β} {next' : α → Run ω' β} (h : Matches rel run run')
    (hnext : ∀ a, Matches rel (next a) (next' a)) :
    Matches rel (run >>= next) (run' >>= next') := by
  intro w w' hrel
  obtain ⟨answer, v, v', hrun, hrun', hv⟩ := h w w' hrel
  cases answer with
  | error stop =>
    exact ⟨.error stop, v, v', run_bind_of_error hrun, run_bind_of_error hrun', hv⟩
  | ok a =>
    obtain ⟨answer, u, u', hrest, hrest', hu⟩ := hnext a v v' hv
    exact ⟨answer, u, u', (run_bind_of_ok hrun).trans hrest, (run_bind_of_ok hrun').trans hrest',
      hu⟩

theorem ite {c : Prop} [Decidable c] {other : Run ω α} {other' : Run ω' α}
    (h : c → Matches rel run run') (hother : ¬c → Matches rel other other') :
    Matches rel (if c then run else other) (if c then run' else other') := by
  by_cases hc : c
  · rw [if_pos hc, if_pos hc]
    exact h hc
  · rw [if_neg hc, if_neg hc]
    exact hother hc

/-- A look at the state: what comes after it must match for related states. -/
theorem get_bind {next : ω → Run ω α} {next' : ω' → Run ω' α}
    (h : ∀ w w', rel w w' → Matches rel (next w) (next' w')) :
    Matches rel (get >>= next) (get >>= next') := by
  intro w w' hrel
  exact h w w' hrel w w' hrel

theorem modify {f : ω → ω} {f' : ω' → ω'} (h : ∀ w w', rel w w' → rel (f w) (f' w')) :
    Matches rel (modify f : Run ω Unit) (modify f' : Run ω' Unit) := by
  intro w w' hrel
  exact ⟨.ok (), f w, f' w', rfl, rfl, h w w' hrel⟩

theorem attempt (h : Matches rel run run') : Matches rel run.attempt run'.attempt := by
  intro w w' hrel
  obtain ⟨answer, v, v', hrun, hrun', hv⟩ := h w w' hrel
  match answer, hrun, hrun' with
  | .ok a, hrun, hrun' =>
    exact ⟨.ok (.ok a), v, v', run_attempt_of_ok hrun, run_attempt_of_ok hrun', hv⟩
  | .error (.failed failure), hrun, hrun' =>
    exact ⟨.ok (.error failure), v, v', run_attempt_of_failed hrun, run_attempt_of_failed hrun',
      hv⟩
  | .error .clockOverflow, hrun, hrun' =>
    exact ⟨.error .clockOverflow, v, v', run_attempt_of_stop hrun (by simp),
      run_attempt_of_stop hrun' (by simp), hv⟩
  | .error .exhausted, hrun, hrun' =>
    exact ⟨.error .exhausted, v, v', run_attempt_of_stop hrun (by simp),
      run_attempt_of_stop hrun' (by simp), hv⟩

theorem onFailure {change : Failure → ω → ω} {change' : Failure → ω' → ω'}
    (h : Matches rel run run')
    (hchange : ∀ failure w w', rel w w' → rel (change failure w) (change' failure w')) :
    Matches rel (run.onFailure change) (run'.onFailure change') := by
  intro w w' hrel
  obtain ⟨answer, v, v', hrun, hrun', hv⟩ := h w w' hrel
  match answer, hrun, hrun' with
  | .ok a, hrun, hrun' =>
    exact ⟨.ok a, v, v', run_onFailure_of_ok hrun, run_onFailure_of_ok hrun', hv⟩
  | .error (.failed failure), hrun, hrun' =>
    exact ⟨.error (.failed failure), _, _, run_onFailure_of_failed hrun,
      run_onFailure_of_failed hrun', hchange failure v v' hv⟩
  | .error .clockOverflow, hrun, hrun' =>
    exact ⟨.error .clockOverflow, v, v', run_onFailure_of_stop hrun (by simp),
      run_onFailure_of_stop hrun' (by simp), hv⟩
  | .error .exhausted, hrun, hrun' =>
    exact ⟨.error .exhausted, v, v', run_onFailure_of_stop hrun (by simp),
      run_onFailure_of_stop hrun' (by simp), hv⟩

variable {clock : Clock ω} {clock' : Clock ω'} {check : Run ω Bool} {check' : Run ω' Bool}

/-- Waits by clocks that match. -/
theorem pollUntil (hread : Matches rel clock.read clock'.read)
    (hsleep : ∀ d, Matches rel (clock.sleep d) (clock'.sleep d)) (hcheck : Matches rel check check')
    (config : WaitConfig) (condition : String) (budget : Nat) :
    Matches rel (PagePilot.pollUntil clock config condition check budget)
      (PagePilot.pollUntil clock' config condition check' budget) := by
  refine hread.bind fun start => ?_
  induction budget with
  | zero => exact .throw .exhausted
  | succ budget ih =>
    refine hcheck.bind fun holds => .ite (fun _ => .pure ()) fun _ => hread.bind fun now => ?_
    exact .ite (fun _ => .throw _) fun _ => (hsleep config.interval).bind fun _ => ih

end Matches

end Run

end PagePilot
