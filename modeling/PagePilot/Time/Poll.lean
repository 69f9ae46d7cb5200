import PagePilot.Time.Clock

/-!
# Polling

Waiting for a condition: check it, and while it does not hold, sleep and check again, until more
than the time limit has passed since the first check began.

## Main definitions

- `WaitConfig` - time limit and pause of a wait
- `pollUntil` - the wait itself
-/

namespace PagePilot

/-- How long a wait goes on and how long it pauses between two checks. -/
structure WaitConfig where
  limit : Duration
  interval : Duration
deriving DecidableEq

variable {ω : Type}

/-- The rounds of a wait that began at `start`. A check that holds or stops ends the wait, even if
the time is up; a check that does not hold ends it only then. At most `budget` checks are made. -/
def pollFrom (clock : Clock ω) (config : WaitConfig) (condition : String) (check : Run ω Bool)
    (start : Duration) : (budget : Nat) → Run ω Unit
  | 0 => throw .exhausted
  | budget + 1 => do
    let holds ← check
    if holds then pure ()
    else
      let now ← clock.read
      if config.limit < now.since start then Run.fail (.timeout condition config.limit)
      else
        clock.sleep config.interval
        pollFrom clock config condition check start budget

section Rounds

variable {clock : Clock ω} {config : WaitConfig} {condition : String} {check : Run ω Bool}
  {start : Duration} {budget : Nat} {w w₁ w₂ : ω} {stop : Stop}

theorem pollFrom_zero :
    (pollFrom clock config condition check start 0).run w = .error .exhausted w := rfl

/-- A check that stops ends the wait. -/
theorem pollFrom_of_stop (h : check.run w = .error stop w₁) :
    (pollFrom clock config condition check start (budget + 1)).run w = .error stop w₁ := by
  rw [pollFrom, Run.run_bind_of_error h]

/-- A check that holds ends the wait. -/
theorem pollFrom_of_holds (h : check.run w = .ok true w₁) :
    (pollFrom clock config condition check start (budget + 1)).run w = .ok () w₁ := by
  rw [pollFrom, Run.run_bind_of_ok h, if_pos rfl, EStateM.run_pure]

/-- A check that does not hold ends the wait if the time is up. -/
theorem pollFrom_of_late (h : check.run w = .ok false w₁)
    (late : config.limit < (clock.now w₁).1.since start) :
    (pollFrom clock config condition check start (budget + 1)).run w
      = .error (.failed (.timeout condition config.limit)) (clock.now w₁).2 := by
  rw [pollFrom, Run.run_bind_of_ok h, if_neg Bool.false_ne_true,
    Run.run_bind_of_ok clock.run_read, if_pos late, Run.run_fail]

/-- Otherwise the wait sleeps and goes on. -/
theorem pollFrom_of_early (h : check.run w = .ok false w₁)
    (early : ¬ config.limit < (clock.now w₁).1.since start)
    (slept : (clock.sleep config.interval).run (clock.now w₁).2 = .ok () w₂) :
    (pollFrom clock config condition check start (budget + 1)).run w
      = (pollFrom clock config condition check start budget).run w₂ := by
  rw [pollFrom, Run.run_bind_of_ok h, if_neg Bool.false_ne_true,
    Run.run_bind_of_ok clock.run_read, if_neg early, Run.run_bind_of_ok slept]

/-- A sleep that stops ends the wait. -/
theorem pollFrom_of_sleepless (h : check.run w = .ok false w₁)
    (early : ¬ config.limit < (clock.now w₁).1.since start)
    (slept : (clock.sleep config.interval).run (clock.now w₁).2 = .error stop w₂) :
    (pollFrom clock config condition check start (budget + 1)).run w = .error stop w₂ := by
  rw [pollFrom, Run.run_bind_of_ok h, if_neg Bool.false_ne_true,
    Run.run_bind_of_ok clock.run_read, if_neg early, Run.run_bind_of_error slept]

end Rounds

/-- Checks until the condition holds; `condition` names it if the time runs out. -/
def pollUntil (clock : Clock ω) (config : WaitConfig) (condition : String) (check : Run ω Bool)
    (budget : Nat) : Run ω Unit := do
  let start ← clock.read
  pollFrom clock config condition check start budget

end PagePilot
