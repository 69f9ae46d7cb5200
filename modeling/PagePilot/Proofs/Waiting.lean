import PagePilot.Proofs.Journal

/-!
# Waiting on a manual clock

A manual clock moves by what is slept on it, and calls to the page may move it on. Every round of a
wait moves it by the pause at least, and it cannot be moved beyond the longest duration; so a wait
whose pause is not zero comes to an end, however long its time limit.

## Main definitions

- `Environment.OnManualClock` - the clock of an environment is a manual one

## Main statements

- `Environment.OnManualClock.waitUntil_ends` - a wait ends, and more rounds would not change how
-/

namespace PagePilot

variable {σ α : Type}

/-- The clock of an environment is a manual one, on which the host reads `time`. -/
structure Environment.OnManualClock (env : Environment σ) (time : σ → Duration) : Prop where
  now (host : σ) : env.now host = (time host, host)
  /-- A sleep moves the clock by its duration, unless the clock cannot be moved so far. -/
  sleep (d : Duration) (hosted : Hosted σ) :
    (∃ later after, (time hosted.host).add? d = some later ∧
      (env.sleep d).run hosted = .ok () after ∧ time after.host = later) ∨
    ((time hosted.host).add? d = none ∧
      ∃ after, (env.sleep d).run hosted = .error .clockOverflow after)
  /-- A call that succeeds does not turn the clock back. -/
  call (call : PageCall) (hosted after : Hosted σ) (answer : call.Answer) :
    (env.call call).run hosted = .ok answer after → time hosted.host ≤ time after.host

namespace World

variable {call : Host Failure σ α} {entry : Bool → Entry σ} {w w₁ : World σ}

theorem ne_exhausted_of_run_ask {stop : Stop} (h : (World.ask call entry).run w = .error stop w₁) :
    stop ≠ .exhausted := by
  obtain ⟨host, journal⟩ := w
  simp only [World.ask, EStateM.run] at h
  split at h
  · cases h
  · next fault after hcall =>
    cases h
    cases fault <;> simp [Stop.ofFault]

end World

namespace Environment.OnManualClock

variable {env : Environment σ} {time : σ → Duration} (h : env.OnManualClock time)

include h

theorem run_read (w : World σ) : env.clock.read.run w = .ok (time w.host) w := by
  simp only [Clock.run_read, Environment.clock, h.now]

theorem clock_now (w : World σ) : env.clock.now w = (time w.host, w) := by
  simp only [Environment.clock, h.now]

/-- A sleep moves the clock by its duration, or stops the run that has asked for it. -/
theorem run_sleep (d : Duration) (w : World σ) :
    (∃ w₁, (env.clock.sleep d).run w = .ok () w₁ ∧
      (time w₁.host).nanos = (time w.host).nanos + d.nanos) ∨
    ∃ w₁, (env.clock.sleep d).run w = .error .clockOverflow w₁ := by
  obtain ⟨host, journal⟩ := w
  rcases h.sleep d { host := host } with ⟨later, after, hadd, hrun, htime⟩ | ⟨-, after, hrun⟩
  · refine .inl ⟨World.afterCall journal after (.slept d true), ?_, ?_⟩
    · simp only [Environment.clock, World.ask, EStateM.run] at hrun ⊢
      rw [hrun]
    · rw [show (World.afterCall journal after (.slept d true)).host = after.host from rfl, htime]
      exact Duration.add?_eq_some.mp hadd
  · refine .inr ⟨World.afterCall journal after (.slept d false), ?_⟩
    simp only [Environment.clock, World.ask, EStateM.run] at hrun ⊢
    rw [hrun]
    rfl

theorem time_le_of_doCall {call : PageCall} {answer : call.Answer} {w w₁ : World σ}
    (hrun : (env.doCall call).run w = .ok answer w₁) : time w.host ≤ time w₁.host := by
  obtain ⟨after, hcall, hhost⟩ := World.run_ask_of_ok hrun
  rw [hhost]
  exact h.call call _ after answer hcall

/-- The check of a wait for an answer of the page gives a verdict and does not turn the clock back,
or it stops with what the page has stopped with. -/
theorem run_check (function : String) (args : List Json) (holds : Json → Bool) (w : World σ) :
    (∃ verdict w₁, (holds <$> env.doCall (.evaluate function args)).run w = .ok verdict w₁ ∧
      time w.host ≤ time w₁.host) ∨
    ∃ stop w₁, (holds <$> env.doCall (.evaluate function args)).run w = .error stop w₁ ∧
      stop ≠ .exhausted := by
  cases hcall : (env.doCall (.evaluate function args)).run w with
  | ok answer w₁ =>
    exact .inl ⟨holds answer, w₁, Run.run_map_of_ok hcall, h.time_le_of_doCall hcall⟩
  | error stop w₁ =>
    exact .inr ⟨stop, w₁, Run.run_map_of_error hcall, World.ne_exhausted_of_run_ask hcall⟩

/-- As many rounds as there are nanoseconds left on the clock are enough for a wait. -/
theorem pollFrom_ends (config : WaitConfig) {check : Run (World σ) Bool}
    (hpause : 0 < config.interval.nanos)
    (hcheck : ∀ w, (∃ verdict w₁, check.run w = .ok verdict w₁ ∧ time w.host ≤ time w₁.host) ∨
      ∃ stop w₁, check.run w = .error stop w₁ ∧ stop ≠ .exhausted)
    (condition : String) (start : Duration) (left : Nat) (w : World σ)
    (hleft : Duration.limit ≤ (time w.host).nanos + left) :
    ∃ answer w₁, answer ≠ .error .exhausted ∧ ∀ more,
      (pollFrom env.clock config condition check start (left + more)).run w
        = Run.ending answer w₁ := by
  -- every round that does not end the wait takes a nanosecond at least from what is left
  induction left generalizing w with
  | zero => exact absurd hleft (Nat.not_le_of_lt (time w.host).nanos_lt)
  | succ left ih =>
    simp only [Nat.succ_add]
    obtain ⟨verdict, w₁, hchecked, htime⟩ | ⟨stop, w₁, hchecked, hstop⟩ := hcheck w
    · cases verdict with
      | true => exact ⟨.ok (), w₁, by simp, fun more => pollFrom_of_holds hchecked⟩
      | false =>
        by_cases hlate : config.limit < (env.clock.now w₁).1.since start
        · refine ⟨.error (.failed (.timeout condition config.limit)), (env.clock.now w₁).2, by simp,
            fun more => ?_⟩
          exact pollFrom_of_late hchecked hlate
        · rcases h.run_sleep config.interval w₁ with ⟨w₂, hslept, hmoved⟩ | ⟨w₂, hslept⟩
          · have hleft₂ : Duration.limit ≤ (time w₂.host).nanos + left := by
              have hnanos : (time w.host).nanos ≤ (time w₁.host).nanos := htime
              omega
            obtain ⟨answer, w₃, hanswer, hends⟩ := ih w₂ hleft₂
            refine ⟨answer, w₃, hanswer, fun more => ?_⟩
            rw [pollFrom_of_early hchecked hlate (by rw [h.clock_now]; exact hslept)]
            exact hends more
          · refine ⟨.error .clockOverflow, w₂, by simp, fun more => ?_⟩
            exact pollFrom_of_sleepless hchecked hlate (by rw [h.clock_now]; exact hslept)
    · refine ⟨.error stop, w₁, fun heq => ?_, fun more => pollFrom_of_stop hchecked⟩
      cases heq
      exact hstop rfl

/-- A wait for an answer of the page ends, and in the same way wherever enough rounds are
granted. -/
theorem waitUntil_ends (options : SessionOptions) (hpause : 0 < options.pollInterval.nanos)
    (condition function : String) (args : List Json) (holds : Json → Bool) (w : World σ) :
    ∃ answer w₁, answer ≠ .error .exhausted ∧ ∀ s : Setting σ, s.env = env → s.options = options →
      Duration.limit ≤ s.budget →
      (s.waitUntil condition function args holds).run w = Run.ending answer w₁ := by
  obtain ⟨answer, w₁, hanswer, hends⟩ := h.pollFrom_ends options.waitConfig hpause
    (h.run_check function args holds) condition (time w.host) Duration.limit w
    (Nat.le_add_left _ _)
  refine ⟨answer, w₁, hanswer, fun s henv hoptions hbudget => ?_⟩
  obtain ⟨more, hmore⟩ := Nat.exists_eq_add_of_le hbudget
  subst henv hoptions
  rw [Setting.waitUntil, Setting.evaluate, pollUntil, Run.run_bind_of_ok (h.run_read w), hmore]
  exact hends more

end Environment.OnManualClock

end PagePilot
