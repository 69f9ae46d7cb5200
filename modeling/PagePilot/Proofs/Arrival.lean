import Mathlib.Algebra.Order.Floor.Div
import PagePilot.Proofs.Polling

/-!
# Waiting for an instant

A wait whose checks look whether an instant has come. The last check of a wait comes after the
deadline, so what has come by the deadline is never reported as late, however the checks themselves
pass the time; and the sleeps in between decide how much later an instant may come.

## Main definitions

- `Watch` - checks for an instant, which may themselves move the clock
- `Watch.pauses` - how many pauses pass before a clock that nothing else moves has reached it

## Main statements

- `Watch.settles` - only what comes after the deadline is late
- `Watch.wait_of_still` - how a wait goes if its checks take no time
- `wait_for_instant` - both, and that there is no other end
-/

namespace PagePilot

/-- Checks that look whether an instant has come. Before it looks, a check may move the clock. -/
structure Watch where
  instant : Duration
  /-- The amounts by which each check moves the clock. -/
  moves : Nat → List Duration

namespace Watch

variable (watch : Watch) (config : WaitConfig) (condition : String)

/-- The next check. The state is the time of a manual clock and the number of checks so far. -/
def check : Run (Duration × Nat) Bool := do
  let made ← modifyGet fun (time, made) => (made, time, made + 1)
  forM (watch.moves made) (Clock.manual.beside Nat).sleep
  let now ← (Clock.manual.beside Nat).read
  pure (decide (watch.instant ≤ now))

/-- A wait for the instant. -/
def wait : Wait (Duration × Nat) where
  clock := Clock.manual.beside Nat
  config := config
  condition := condition
  check := watch.check

/-- How far a check moves the clock, in nanoseconds. -/
def moved (k : Nat) : Nat := ((watch.moves k).map Duration.nanos).sum

/-- How many pauses pass until the instant has come, if the wait begins at `start` and nothing else
moves the clock. -/
def pauses (start : Duration) : Nat :=
  (watch.instant.nanos - start.nanos) ⌈/⌉ config.interval.nanos

/-- How many pauses pass in all: until the instant has come, or until the deadline has passed. -/
def rounds (start : Duration) : Nat :=
  min (watch.pauses config start) (config.limit.nanos / config.interval.nanos + 1)

section Checks

theorem run_moves (amounts : List Duration) (time : Duration) (made : Nat) :
    (∃ later : Duration, later.nanos = time.nanos + (amounts.map Duration.nanos).sum ∧
      (forM amounts (Clock.manual.beside Nat).sleep).run (time, made) = .ok ⟨⟩ (later, made)) ∨
    (Duration.limit ≤ time.nanos + (amounts.map Duration.nanos).sum ∧ ∃ reached,
      (forM amounts (Clock.manual.beside Nat).sleep).run (time, made)
        = .error .clockOverflow (reached, made)) := by
  induction amounts generalizing time with
  | nil => exact .inl ⟨time, rfl, rfl⟩
  | cons amount amounts ih =>
    rw [List.forM_cons, List.map_cons, List.sum_cons]
    cases hmoved : time.add? amount with
    | none =>
      have hbeyond := Duration.add?_eq_none.mp hmoved
      exact .inr ⟨by omega, time, Run.run_bind_of_error (Course.run_sleep_of_none hmoved)⟩
    | some next =>
      have hnext := Duration.add?_eq_some.mp hmoved
      rw [Run.run_bind_of_ok (Course.run_sleep_of_some hmoved)]
      rcases ih next with ⟨later, hlater, hrun⟩ | ⟨hbeyond, reached, hrun⟩
      · exact .inl ⟨later, by omega, hrun⟩
      · exact .inr ⟨by omega, reached, hrun⟩

/-- A check moves the clock and sees whether the instant has come by then, unless the clock runs
over. -/
theorem run_check (time : Duration) (made : Nat) :
    (∃ later : Duration, later.nanos = time.nanos + watch.moved made ∧
      watch.check.run (time, made) = .ok (decide (watch.instant ≤ later)) (later, made + 1)) ∨
    (Duration.limit ≤ time.nanos + watch.moved made ∧ ∃ reached,
      watch.check.run (time, made) = .error .clockOverflow (reached, made + 1)) := by
  have hcount : (modifyGet fun (time, made) => (made, time, made + 1) :
      Run (Duration × Nat) Nat).run (time, made) = .ok made (time, made + 1) := rfl
  rcases run_moves (watch.moves made) time (made + 1) with
    ⟨later, hlater, hmoves⟩ | ⟨h, reached, hmoves⟩
  · refine .inl ⟨later, hlater, ?_⟩
    rw [check, Run.run_bind_of_ok hcount, Run.run_bind_of_ok hmoves,
      Run.run_bind_of_ok (Clock.run_read _), EStateM.run_pure]
    rfl
  · refine .inr ⟨h, reached, ?_⟩
    rw [check, Run.run_bind_of_ok hcount, Run.run_bind_of_error hmoves]

end Checks

section Rounds

variable {watch config condition} {w : Duration × Nat} {k : Nat} {time later : Duration}

/-- What a check sees and where it leaves the clock. -/
theorem seen_cases (h : (watch.wait config condition).before w k = (time, k)) :
    (∃ later : Duration, later.nanos = time.nanos + watch.moved k ∧
      (watch.wait config condition).seen w k = .ok (decide (watch.instant ≤ later)) ∧
      watch.check.leaves ((watch.wait config condition).before w k) = (later, k + 1)) ∨
    (Duration.limit ≤ time.nanos + watch.moved k ∧
      (watch.wait config condition).seen w k = .error .clockOverflow) := by
  rw [Wait.seen, h]
  rcases watch.run_check time k with ⟨later, hlater, hrun⟩ | ⟨hbeyond, reached, hrun⟩
  · exact .inl ⟨later, hlater, Run.outcome_of_ending (Run.ending_of_ok hrun),
      Run.leaves_of_ending (Run.ending_of_ok hrun)⟩
  · exact .inr ⟨hbeyond, Run.outcome_of_ending (Run.ending_of_error hrun)⟩

/-- A sleep after a check. -/
theorem slept_cases
    (h : watch.check.leaves ((watch.wait config condition).before w k) = (later, k + 1)) :
    (∃ next : Duration, next.nanos = later.nanos + config.interval.nanos ∧
      (watch.wait config condition).slept w k = .ok () ∧
      (watch.wait config condition).before w (k + 1) = (next, k + 1)) ∨
    (Duration.limit ≤ later.nanos + config.interval.nanos ∧
      (watch.wait config condition).slept w k = .error .clockOverflow) := by
  have hslept : (watch.wait config condition).slept w k
      = ((Clock.manual.beside Nat).sleep config.interval).outcome (later, k + 1) := by
    rw [← h]
    rfl
  have hbefore : (watch.wait config condition).before w (k + 1)
      = ((Clock.manual.beside Nat).sleep config.interval).leaves (later, k + 1) := by
    rw [← h]
    rfl
  cases hmoved : later.add? config.interval with
  | none =>
    rw [hslept]
    exact .inr ⟨Duration.add?_eq_none.mp hmoved,
      Run.outcome_of_ending (Course.run_sleep_of_none hmoved)⟩
  | some next =>
    have hsleep : ((Clock.manual.beside Nat).sleep config.interval).run (later, k + 1)
        = Run.ending (.ok ()) (next, k + 1) :=
      Course.run_sleep_of_some hmoved
    rw [hslept, hbefore]
    exact .inl ⟨next, Duration.add?_eq_some.mp hmoved, Run.outcome_of_ending hsleep,
      Run.leaves_of_ending hsleep⟩

theorem time_eq
    (h : watch.check.leaves ((watch.wait config condition).before w k) = (later, k + 1)) :
    (watch.wait config condition).time w k = later := by
  change (watch.check.leaves ((watch.wait config condition).before w k)).1 = later
  rw [h]

/-- A check after which the wait goes on has left the clock where it has moved it. -/
theorem leaves_of_not_ends (hgoes : ¬(watch.wait config condition).Ends w k)
    (h : (watch.wait config condition).before w k = (time, k)) :
    ∃ later : Duration, later.nanos = time.nanos + watch.moved k ∧
      watch.check.leaves ((watch.wait config condition).before w k) = (later, k + 1) := by
  rcases seen_cases h with ⟨later, hlater, -, hleft⟩ | ⟨-, hseen⟩
  · exact ⟨later, hlater, hleft⟩
  · exact absurd (.inl (by rw [hseen]; simp)) hgoes

/-- Every pause has brought the clock forward. -/
theorem exists_before {start : Duration}
    (h : ∀ j < k, ¬(watch.wait config condition).Ends (start, 0) j ∧
      (watch.wait config condition).slept (start, 0) j = .ok ()) :
    ∃ time : Duration, start.nanos + k * config.interval.nanos ≤ time.nanos ∧
      (watch.wait config condition).before (start, 0) k = (time, k) := by
  induction k with
  | zero => exact ⟨start, by omega, rfl⟩
  | succ k ih =>
    obtain ⟨time, hle, hbefore⟩ := ih fun j hj => h j (by omega)
    obtain ⟨hgoes, hslept⟩ := h k (Nat.lt_succ_self k)
    obtain ⟨later, hlater, hleft⟩ := leaves_of_not_ends hgoes hbefore
    rcases slept_cases hleft with ⟨next, hnext, -, hagain⟩ | ⟨-, hstop⟩
    · exact ⟨next, by rw [Nat.succ_mul]; omega, hagain⟩
    · rw [hstop] at hslept
      cases hslept

/-- A wait that goes on for as long as it may has few checks left. -/
theorem lt_of_goes_on {start : Duration} (hpause : 0 < config.interval.nanos)
    (h : ¬(watch.wait config condition).Ends (start, 0) k ∧
      ∀ j < k, ¬(watch.wait config condition).Ends (start, 0) j ∧
        (watch.wait config condition).slept (start, 0) j = .ok ()) :
    k < config.limit.nanos / config.interval.nanos + 1 := by
  obtain ⟨time, hle, hbefore⟩ := exists_before h.2
  obtain ⟨later, hlater, hleft⟩ := leaves_of_not_ends h.1 hbefore
  have early := fun late => h.1 (.inr late)
  rw [time_eq hleft] at early
  change ¬config.limit.nanos < later.nanos - start.nanos at early
  have hmul : k * config.interval.nanos ≤ config.limit.nanos := by omega
  exact Nat.lt_succ_of_le ((Nat.le_div_iff_mul_le hpause).mpr hmul)

end Rounds

section Answers

/-- The ways in which a wait for an instant comes to an end. -/
inductive Settles (start : Duration) (budget : Nat) : Prop
  /-- The instant has come. -/
  | came (h : ((watch.wait config condition).poll budget).outcome (start, 0) = .ok ())
  /-- It has not come by the end of the wait, nor by the deadline before it. -/
  | late (h : ((watch.wait config condition).poll budget).outcome (start, 0)
        = .error (.failed (.timeout condition config.limit)))
      (hlate : start.nanos + config.limit.nanos < watch.instant.nanos)
  /-- The clock has run over. -/
  | overflow (h : ((watch.wait config condition).poll budget).outcome (start, 0)
        = .error .clockOverflow)
  /-- The wait may make no more checks. -/
  | exhausted (h : ((watch.wait config condition).poll budget).outcome (start, 0)
        = .error .exhausted)
      (hfew : 0 < config.interval.nanos →
        budget ≤ config.limit.nanos / config.interval.nanos + 1)

theorem settles (start : Duration) (budget : Nat) :
    Settles watch config condition start budget := by
  cases (watch.wait config condition).way (start, 0) budget with
  | ends n hends hbudget h =>
    obtain ⟨houtcome, -⟩ := Wait.poll_of_ends hends h hbudget
    obtain ⟨time, hle, hbefore⟩ := exists_before h
    rw [Wait.answer] at houtcome
    rcases seen_cases hbefore with ⟨later, hlater, hseen, hleft⟩ | ⟨-, hseen⟩
    · rw [hseen] at houtcome
      by_cases hcame : watch.instant ≤ later
      · simp only [hcame, decide_true] at houtcome
        exact .came houtcome
      · simp only [hcame, decide_false] at houtcome hseen
        -- the check has looked at the very time that is found late
        have late := hends.resolve_left fun hnot => hnot hseen
        rw [time_eq hleft] at late
        refine .late houtcome ?_
        change config.limit.nanos < later.nanos - start.nanos at late
        have hnot : later.nanos < watch.instant.nanos := Nat.lt_of_not_le hcame
        omega
    · rw [hseen] at houtcome
      exact .overflow houtcome
  | sleepless n stop hgoes hslept hbudget h =>
    obtain ⟨houtcome, -⟩ := Wait.poll_of_sleepless hgoes hslept h hbudget
    obtain ⟨time, hle, hbefore⟩ := exists_before h
    obtain ⟨later, hlater, hleft⟩ := leaves_of_not_ends hgoes hbefore
    rcases slept_cases hleft with ⟨next, -, hgood, -⟩ | ⟨-, hstop⟩
    · rw [hgood] at hslept
      cases hslept
    · rw [hslept] at hstop
      cases hstop
      exact .overflow houtcome
  | goesOn h =>
    refine .exhausted (Wait.poll_of_goes_on h).1 fun hpause => ?_
    cases budget with
    | zero => exact Nat.zero_le _
    | succ budget =>
      exact lt_of_goes_on hpause ⟨(h budget (Nat.lt_succ_self budget)).1,
        fun j hj => h j (Nat.lt_succ_of_lt hj)⟩

end Answers

section Still

variable {watch config condition} {w : Duration × Nat} {start time : Duration} {k n budget : Nat}

theorem came_iff (hpause : 0 < config.interval.nanos) :
    watch.instant.nanos ≤ start.nanos + k * config.interval.nanos
      ↔ watch.pauses config start ≤ k := by
  rw [pauses, ceilDiv_le_iff_le_mul hpause, Nat.mul_comm]
  omega

theorem late_iff (hpause : 0 < config.interval.nanos) :
    config.limit.nanos < k * config.interval.nanos
      ↔ config.limit.nanos / config.interval.nanos + 1 ≤ k := by
  rw [Nat.succ_le_iff, Nat.div_lt_iff_lt_mul hpause]

/-- A check that takes no time sees the time at which it begins. -/
theorem seen_of_still (hstill : watch.moved k = 0)
    (h : (watch.wait config condition).before w k = (time, k)) :
    (watch.wait config condition).seen w k = .ok (decide (watch.instant ≤ time)) ∧
      watch.check.leaves ((watch.wait config condition).before w k) = (time, k + 1) := by
  rcases seen_cases h with ⟨later, hlater, hseen, hleft⟩ | ⟨hbeyond, -⟩
  · have heq : later = time := Duration.ext_nanos (by omega)
    rw [heq] at hseen hleft
    exact ⟨hseen, hleft⟩
  · have hwithin := time.nanos_lt
    omega

variable (condition)

/-- Every check comes one pause after the one before it. -/
theorem before_of_still (hstill : ∀ k, watch.moved k = 0)
    (h : start.nanos + k * config.interval.nanos < Duration.limit) :
    ∃ time : Duration, time.nanos = start.nanos + k * config.interval.nanos ∧
      (watch.wait config condition).before (start, 0) k = (time, k) := by
  induction k with
  | zero => exact ⟨start, by omega, rfl⟩
  | succ k ih =>
    rw [Nat.succ_mul] at h ⊢
    obtain ⟨time, htime, hbefore⟩ := ih (by omega)
    obtain ⟨-, hleft⟩ := seen_of_still (hstill k) hbefore
    rcases slept_cases hleft with ⟨next, hnext, -, hagain⟩ | ⟨hbeyond, -⟩
    · exact ⟨next, by omega, hagain⟩
    · omega

/-- The first check that ends the wait is the first for which the instant has come or the deadline
has passed. -/
theorem ends_iff_of_still (hstill : ∀ k, watch.moved k = 0) (hpause : 0 < config.interval.nanos)
    (h : start.nanos + k * config.interval.nanos < Duration.limit) :
    (watch.wait config condition).Ends (start, 0) k ↔ watch.rounds config start ≤ k := by
  obtain ⟨time, htime, hbefore⟩ := before_of_still condition hstill h
  obtain ⟨hseen, hleft⟩ := seen_of_still (hstill k) hbefore
  have hcame : (Except.ok (decide (watch.instant ≤ time)) : Except Stop Bool) ≠ .ok false
      ↔ watch.pauses config start ≤ k := by
    rw [← came_iff hpause, ← htime]
    simp
    rfl
  have hlate : config.limit.nanos < time.nanos - start.nanos
      ↔ config.limit.nanos / config.interval.nanos + 1 ≤ k := by
    rw [← late_iff hpause]
    omega
  rw [rounds, min_le_iff, Wait.Ends, hseen, time_eq hleft, hcame]
  exact or_congr_right hlate

theorem goes_of_still (hstill : ∀ k, watch.moved k = 0) (hpause : 0 < config.interval.nanos)
    (hn : n ≤ watch.rounds config start)
    (h : start.nanos + n * config.interval.nanos < Duration.limit) :
    ∀ k < n, ¬(watch.wait config condition).Ends (start, 0) k ∧
      (watch.wait config condition).slept (start, 0) k = .ok () := by
  intro k hk
  have hnext : (k + 1) * config.interval.nanos ≤ n * config.interval.nanos :=
    Nat.mul_le_mul_right _ hk
  rw [Nat.succ_mul] at hnext
  have hwithin : start.nanos + k * config.interval.nanos < Duration.limit := by omega
  obtain ⟨time, htime, hbefore⟩ := before_of_still condition hstill hwithin
  obtain ⟨-, hleft⟩ := seen_of_still (hstill k) hbefore
  refine ⟨fun hends => ?_, ?_⟩
  · rw [ends_iff_of_still condition hstill hpause hwithin] at hends
    omega
  · rcases slept_cases hleft with ⟨next, -, hslept, -⟩ | ⟨hbeyond, -⟩
    · exact hslept
    · omega

/-- A wait whose checks take no time ends when the instant has come, or else with the first check
after the deadline. -/
theorem wait_of_still (hstill : ∀ k, watch.moved k = 0) (hpause : 0 < config.interval.nanos)
    (h : start.nanos + watch.rounds config start * config.interval.nanos < Duration.limit)
    (hbudget : watch.rounds config start < budget) :
    ((watch.wait config condition).poll budget).outcome (start, 0)
      = (if watch.pauses config start ≤ config.limit.nanos / config.interval.nanos + 1 then .ok ()
        else .error (.failed (.timeout condition config.limit))) ∧
    ∃ time : Duration,
      time.nanos = start.nanos + watch.rounds config start * config.interval.nanos ∧
      ((watch.wait config condition).poll budget).leaves (start, 0)
        = (time, watch.rounds config start + 1) := by
  have hends := (ends_iff_of_still condition hstill hpause h).mpr le_rfl
  have hgoes := goes_of_still condition hstill hpause le_rfl h
  obtain ⟨time, htime, hbefore⟩ := before_of_still condition hstill h
  obtain ⟨hseen, hleft⟩ := seen_of_still (hstill _) hbefore
  have hcame : watch.instant ≤ time
      ↔ watch.pauses config start ≤ config.limit.nanos / config.interval.nanos + 1 := by
    have hreached : watch.instant.nanos
        ≤ start.nanos + watch.rounds config start * config.interval.nanos ↔ _ := came_iff hpause
    rw [← htime] at hreached
    refine hreached.trans ?_
    rw [rounds]
    omega
  rw [(Wait.poll_of_ends hends hgoes hbudget).1, Wait.leaves_of_ends hends hgoes hbudget,
    Wait.answer, Wait.last, hseen]
  by_cases hwithin : watch.instant ≤ time
  · rw [if_pos (hcame.mp hwithin), decide_eq_true hwithin]
    exact ⟨rfl, time, htime, hleft⟩
  · rw [if_neg (mt hcame.mpr hwithin), decide_eq_false hwithin]
    exact ⟨rfl, time, htime, hleft⟩

/-- The clock has no room for all pauses, so one of them is too long for it. -/
theorem wait_of_overflow (hstill : ∀ k, watch.moved k = 0) (hpause : 0 < config.interval.nanos)
    (h : Duration.limit ≤ start.nanos + watch.rounds config start * config.interval.nanos)
    (hbudget : watch.rounds config start < budget) :
    ((watch.wait config condition).poll budget).outcome (start, 0) = .error .clockOverflow := by
  -- the last check that the clock still reaches
  let k := (Duration.max.nanos - start.nanos) / config.interval.nanos
  have hmax : Duration.max.nanos + 1 = Duration.limit := rfl
  have hstart := start.nanos_lt
  have hreached : k * config.interval.nanos ≤ Duration.max.nanos - start.nanos :=
    Nat.div_mul_le_self _ _
  have hbeyond : Duration.max.nanos - start.nanos < (k + 1) * config.interval.nanos := by
    rw [Nat.mul_comm]
    exact Nat.lt_mul_div_succ _ hpause
  have hwithin : start.nanos + k * config.interval.nanos < Duration.limit := by omega
  have hk : k < watch.rounds config start :=
    Nat.lt_of_mul_lt_mul_right (a := config.interval.nanos) (by omega)
  obtain ⟨time, htime, hbefore⟩ := before_of_still condition hstill hwithin
  obtain ⟨-, hleft⟩ := seen_of_still (hstill k) hbefore
  have hgoes : ¬(watch.wait config condition).Ends (start, 0) k := fun hends => by
    rw [ends_iff_of_still condition hstill hpause hwithin] at hends
    omega
  rcases slept_cases hleft with ⟨next, hnext, -⟩ | ⟨-, hslept⟩
  · have hnow := next.nanos_lt
    rw [Nat.succ_mul] at hbeyond
    omega
  · exact (Wait.poll_of_sleepless hgoes hslept
      (goes_of_still condition hstill hpause (Nat.le_of_lt hk) hwithin) (hk.trans hbudget)).1

end Still

end Watch

/-- A wait for an instant on a manual clock, with a pause between two checks.

* Whatever its checks do to the clock, the wait reports a timeout only if the instant lies behind
  the deadline; and unless the clock runs over, it comes to an end after as many checks as there are
  pauses in the time limit, and two more.
* If its checks take no time, it succeeds exactly if the instant has come by the first check behind
  the deadline. It ends with the first check for which the instant has come, or with that last one,
  and the clock shows the time of this check. The clock runs over only if it has no room for the
  pauses until then. -/
theorem wait_for_instant (watch : Watch) (config : WaitConfig) (condition : String)
    (start : Duration) (hpause : 0 < config.interval.nanos) :
    let poll := (watch.wait config condition).poll
    let timeout : Except Stop Unit := .error (.failed (.timeout condition config.limit))
    let most := config.limit.nanos / config.interval.nanos + 1
    let pauses := (watch.instant.nanos - start.nanos) ⌈/⌉ config.interval.nanos
    (∀ budget, (poll budget).outcome (start, 0) = timeout →
      start.nanos + config.limit.nanos < watch.instant.nanos) ∧
    (∀ budget, most + 1 ≤ budget → (poll budget).outcome (start, 0) ≠ .error .clockOverflow →
      (poll budget).outcome (start, 0) = .ok () ∨ (poll budget).outcome (start, 0) = timeout) ∧
    ((∀ k, watch.moved k = 0) → ∀ budget, most + 1 ≤ budget →
      ((poll budget).outcome (start, 0) = .error .clockOverflow
        ↔ Duration.max.nanos < start.nanos + min pauses most * config.interval.nanos) ∧
      ((poll budget).outcome (start, 0) ≠ .error .clockOverflow →
        ((poll budget).outcome (start, 0) = .ok ()
          ↔ watch.instant.nanos ≤ start.nanos + most * config.interval.nanos) ∧
        ((poll budget).outcome (start, 0) = .ok () →
          ((poll budget).leaves (start, 0)).1.nanos
              = start.nanos + pauses * config.interval.nanos ∧
            ((poll budget).leaves (start, 0)).2 = pauses + 1) ∧
        ((poll budget).outcome (start, 0) = timeout →
          ((poll budget).leaves (start, 0)).1.nanos
              = start.nanos + most * config.interval.nanos ∧
            ((poll budget).leaves (start, 0)).2 = most + 1))) := by
  intro poll timeout most pauses
  have hdiffer : timeout ≠ .ok () := by simp [timeout]
  refine ⟨fun budget htimeout => ?_, fun budget hbudget hclock => ?_,
    fun hstill budget hbudget => ?_⟩
  · cases watch.settles config condition start budget with
    | late _ hlate => exact hlate
    | came h => exact absurd (htimeout.symm.trans h) hdiffer
    | overflow h => simp [timeout, h, poll] at htimeout
    | exhausted h => simp [timeout, h, poll] at htimeout
  · cases watch.settles config condition start budget with
    | came h => exact .inl h
    | late h => exact .inr h
    | overflow h => exact absurd h hclock
    | exhausted _ hfew => exact absurd (hfew hpause) (by omega)
  · have hmax : Duration.max.nanos + 1 = Duration.limit := rfl
    have hrounds : watch.rounds config start = min pauses most := rfl
    have hfew : watch.rounds config start < budget := by omega
    have hcame : watch.instant.nanos ≤ start.nanos + most * config.interval.nanos
        ↔ pauses ≤ most := Watch.came_iff hpause
    by_cases hroom : Duration.max.nanos < start.nanos + min pauses most * config.interval.nanos
    · have hclock : (poll budget).outcome (start, 0) = .error .clockOverflow :=
        Watch.wait_of_overflow condition hstill hpause (by rw [hrounds]; omega) hfew
      exact ⟨iff_of_true hclock hroom, fun hnot => absurd hclock hnot⟩
    · obtain ⟨houtcome, time, htime, hleaves⟩ :=
        Watch.wait_of_still condition hstill hpause (by rw [hrounds]; omega) hfew
      change (poll budget).outcome (start, 0) = (if pauses ≤ most then .ok () else timeout)
        at houtcome
      change (poll budget).leaves (start, 0) = _ at hleaves
      rw [hrounds] at htime hleaves
      rw [hleaves, htime, hcame]
      by_cases hwithin : pauses ≤ most
      · rw [if_pos hwithin] at houtcome
        rw [houtcome, Nat.min_eq_left hwithin]
        rw [Nat.min_eq_left hwithin] at hroom
        exact ⟨iff_of_false (by simp) hroom, fun _ => ⟨iff_of_true rfl hwithin,
          fun _ => ⟨rfl, rfl⟩, fun h => absurd h.symm hdiffer⟩⟩
      · have hbehind : most ≤ pauses := Nat.le_of_not_le hwithin
        rw [if_neg hwithin] at houtcome
        rw [houtcome, Nat.min_eq_right hbehind]
        rw [Nat.min_eq_right hbehind] at hroom
        exact ⟨iff_of_false (by simp [timeout]) hroom, fun _ => ⟨iff_of_false hdiffer hwithin,
          fun h => absurd h hdiffer, fun _ => ⟨rfl, rfl⟩⟩⟩

/-- A wait of 90 nanoseconds with pauses of 30 that begins at 7 makes its last check at 127: what
has come by then is in time, and what comes later is not. Checks that take up half of the time do
not make late what comes at the deadline. -/
theorem wait_for_instant_at_edge :
    let config : WaitConfig := ⟨{ nanos := 90 }, { nanos := 30 }⟩
    let start : Duration := { nanos := 7 }
    let edge := (Watch.mk { nanos := 127 } fun _ => []).wait config "instant"
    let behind := (Watch.mk { nanos := 128 } fun _ => [.zero]).wait config "instant"
    let busy := (Watch.mk { nanos := 97 } fun _ => [{ nanos := 1 }, { nanos := 44 }]).wait config
      "instant"
    (0 < config.interval.nanos ∧ config.limit.nanos / config.interval.nanos + 2 ≤ 5) ∧
    ((edge.poll 5).outcome (start, 0) ≠ .error .clockOverflow ∧
      (edge.poll 5).outcome (start, 0) = .ok () ∧
      ((edge.poll 5).leaves (start, 0)).1.nanos = 127 ∧
      ((edge.poll 5).leaves (start, 0)).2 = 5) ∧
    ((behind.poll 5).outcome (start, 0) ≠ .error .clockOverflow ∧
      (behind.poll 5).outcome (start, 0)
        = .error (.failed (.timeout "instant" config.limit)) ∧
      ((behind.poll 5).leaves (start, 0)).1.nanos = 127 ∧
      ((behind.poll 5).leaves (start, 0)).2 = 5 ∧
      start.nanos + config.limit.nanos < 128) ∧
    ((busy.poll 5).outcome (start, 0) ≠ .error .clockOverflow ∧
      (busy.poll 5).outcome (start, 0) = .ok ()) := by
  intro config start edge behind busy
  have hpause : 0 < config.interval.nanos := by decide
  obtain ⟨-, -, hedge⟩ := wait_for_instant ⟨{ nanos := 127 }, fun _ => []⟩ config "instant" start
    hpause
  obtain ⟨hlate, -, hbehind⟩ := wait_for_instant ⟨{ nanos := 128 }, fun _ => [.zero]⟩ config
    "instant" start hpause
  obtain ⟨hbusy, hends, -⟩ := wait_for_instant
    ⟨{ nanos := 97 }, fun _ => [{ nanos := 1 }, { nanos := 44 }]⟩ config "instant" start hpause
  have hclock : (edge.poll 5).outcome (start, 0) ≠ .error .clockOverflow := by decide
  have hclock' : (behind.poll 5).outcome (start, 0) ≠ .error .clockOverflow := by decide
  have hclock'' : (busy.poll 5).outcome (start, 0) ≠ .error .clockOverflow := by decide
  have htimeout : (behind.poll 5).outcome (start, 0)
      = .error (.failed (.timeout "instant" config.limit)) := by
    decide
  obtain ⟨hreached, hok, -⟩ := (hedge (fun _ => rfl) 5 (by decide)).2 hclock
  obtain ⟨-, -, hleaves⟩ := (hbehind (fun _ => rfl) 5 (by decide)).2 hclock'
  have hcame := hreached.mpr (by decide)
  obtain ⟨htime, hmade⟩ := hok hcame
  obtain ⟨htime', hmade'⟩ := hleaves htimeout
  have hbusy' : (busy.poll 5).outcome (start, 0) = .ok () := by
    -- what comes at the deadline is not late, and the wait has come to an end
    rcases hends 5 (by decide) hclock'' with hcame | hnot
    · exact hcame
    · exact absurd (hbusy 5 hnot) (by decide)
  refine ⟨⟨hpause, by decide⟩, ⟨hclock, hcame, ?_, ?_⟩,
    ⟨hclock', htimeout, ?_, ?_, hlate 5 htimeout⟩, hclock'', hbusy'⟩
  · rw [htime]
    decide
  · rw [hmade]
    decide
  · rw [htime']
    decide
  · rw [hmade']
    decide

end PagePilot
