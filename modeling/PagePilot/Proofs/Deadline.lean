import PagePilot.Proofs.Polling

/-!
# How long waits go on

On a manual clock every sleep brings the deadline nearer, whatever the checks do in between. A wait
with a pause therefore makes few checks, and its clock is never asked to go further than one pause
beyond the deadline. Without a pause there may be no end.

## Main definitions

- `Course.Round` - the ways in which one round goes

## Main statements

- `Course.made_le` - the number of checks, by how far the clock has come
- `Course.outcome_rest_ne_clockOverflow` - the clock does not run over
- `wait_ends_in_time` - how long a wait goes on
-/

namespace PagePilot

namespace Course

variable (course : Course) (config : WaitConfig) (condition : String)

/-- The ways in which one round goes, by what the run of the wait comes to. -/
inductive Round (start time : Duration) (made budget : Nat) : Prop
  /-- The check or the sleep moves the clock beyond its end. -/
  | overflow (reached : Duration)
      (moved : time.add? (course made).1 = none ∨ time.add? (course made).1 = some reached ∧
        reached.nanos - start.nanos ≤ config.limit.nanos ∧ reached.add? config.interval = none)
      (ends : (course.rest config condition start (budget + 1)).run (time, made)
        = Run.ending (.error .clockOverflow) (reached, made + 1))
  /-- The check settles the answer. -/
  | last (later : Duration) (answer : Except Stop Unit)
      (settled : answer ≠ .error .exhausted ∧ answer ≠ .error .clockOverflow)
      (ends : (course.rest config condition start (budget + 1)).run (time, made)
        = Run.ending answer (later, made + 1))
  /-- The check does not hold and the deadline has not passed: the wait sleeps and goes on. -/
  | again (later next : Duration) (moved : time.add? (course made).1 = some later)
      (early : later.nanos - start.nanos ≤ config.limit.nanos)
      (slept : later.add? config.interval = some next)
      (goes : (course.rest config condition start (budget + 1)).run (time, made)
        = (course.rest config condition start budget).run (next, made + 1))

theorem rest_round (start time : Duration) (made budget : Nat) :
    Round course config condition start time made budget := by
  have hround := course.run_rest_succ config condition start budget time made
  cases hmoved : time.add? (course made).1 with
  | none =>
    rw [hmoved] at hround
    exact .overflow time (.inl hmoved) hround
  | some later =>
    rw [hmoved] at hround
    cases hanswer : (course made).2 with
    | error failure =>
      rw [hanswer] at hround
      exact .last later (.error (.failed failure)) (by simp) hround
    | ok holds =>
      rw [hanswer] at hround
      cases holds with
      | true => exact .last later (.ok ()) (by simp) hround
      | false =>
        by_cases late : config.limit < later.since start
        · simp only [if_pos late] at hround
          exact .last later (.error (.failed (.timeout condition config.limit))) (by simp) hround
        · simp only [if_neg late] at hround
          have early : later.nanos - start.nanos ≤ config.limit.nanos := Nat.le_of_not_lt late
          cases hslept : later.add? config.interval with
          | none =>
            rw [hslept] at hround
            exact .overflow later (.inr ⟨hmoved, early, hslept⟩) hround
          | some next =>
            rw [hslept] at hround
            exact .again later next hmoved early hslept hround

/-- Every check that has been made has brought the clock forward by one pause at least, so there can
only be so many, and one more after the deadline. -/
theorem made_le (hpause : 0 < config.interval.nanos) {start time : Duration} {made : Nat}
    (hslept : start.nanos + made * config.interval.nanos ≤ time.nanos)
    (hmade : made ≤ config.limit.nanos / config.interval.nanos + 1) (budget : Nat) :
    ((course.rest config condition start budget).leaves (time, made)).2
        ≤ config.limit.nanos / config.interval.nanos + 2 ∧
      (config.limit.nanos / config.interval.nanos + 2 ≤ made + budget →
        (course.rest config condition start budget).outcome (time, made)
          ≠ .error .exhausted) := by
  induction budget generalizing time made with
  | zero => exact ⟨Nat.le_succ_of_le hmade, fun hbudget => by omega⟩
  | succ budget ih =>
    have hlast : made + 1 ≤ config.limit.nanos / config.interval.nanos + 2 := by omega
    cases course.rest_round config condition start time made budget with
    | overflow reached moved ends =>
      rw [Run.leaves_of_ending ends, Run.outcome_of_ending ends]
      exact ⟨hlast, fun _ => by simp⟩
    | last later answer settled ends =>
      rw [Run.leaves_of_ending ends, Run.outcome_of_ending ends]
      exact ⟨hlast, fun _ => settled.1⟩
    | again later next moved early slept goes =>
      rw [Duration.add?_eq_some] at moved slept
      have hdiv : made ≤ config.limit.nanos / config.interval.nanos :=
        (Nat.le_div_iff_mul_le hpause).mpr (by omega)
      have hnext : start.nanos + (made + 1) * config.interval.nanos ≤ next.nanos := by
        rw [Nat.succ_mul]
        omega
      obtain ⟨hmost, hends⟩ := ih hnext (by omega)
      rw [Run.leaves_congr goes, Run.outcome_congr goes]
      exact ⟨hmost, fun hbudget => hends (by omega)⟩

/-- A sleep begins at the deadline at the latest. If checks take no time, the clock has room for all
of them if it has room for one pause beyond the deadline. -/
theorem outcome_rest_ne_clockOverflow (htimeless : ∀ k, (course k).1 = .zero)
    {start : Duration}
    (hroom : start.nanos + config.limit.nanos + config.interval.nanos ≤ Duration.max.nanos)
    (time : Duration) (made budget : Nat) :
    (course.rest config condition start budget).outcome (time, made) ≠ .error .clockOverflow := by
  induction budget generalizing time made with
  | zero => exact fun h => by cases h
  | succ budget ih =>
    cases course.rest_round config condition start time made budget with
    | overflow reached moved ends =>
      have hstays : time.add? (course made).1 = some time :=
        Duration.add?_eq_some.mpr (by rw [htimeless]; rfl)
      have hmax : Duration.max.nanos + 1 = Duration.limit := rfl
      rcases moved with hnone | ⟨-, early, hnone⟩
      · rw [hstays] at hnone
        cases hnone
      · have hbeyond := Duration.add?_eq_none.mp hnone
        omega
    | last later answer settled ends =>
      rw [Run.outcome_of_ending ends]
      exact settled.2
    | again later next moved early slept goes =>
      rw [Run.outcome_congr goes]
      exact ih next (made + 1)

/-- Checks that never hold and take no time, without a pause: the clock stands still. -/
theorem run_rest_of_still (hstill : ∀ k, course k = (.zero, .ok false))
    (hpause : config.interval.nanos = 0) (start : Duration) (made budget : Nat) :
    (course.rest config condition start budget).run (start, made)
      = .error .exhausted (start, made + budget) := by
  have hstays {d : Duration} (hd : d.nanos = 0) : start.add? d = some start :=
    Duration.add?_eq_some.mpr (by rw [hd]; rfl)
  have early : ¬config.limit < start.since start := by
    change ¬config.limit.nanos < start.nanos - start.nanos
    omega
  induction budget generalizing made with
  | zero => rfl
  | succ budget ih =>
    simp only [run_rest_succ, hstill, hstays (show Duration.zero.nanos = 0 from rfl),
      hstays hpause, if_neg early]
    rw [ih (made + 1), Nat.add_right_comm, Nat.add_assoc]

end Course

/-- A wait on a manual clock, whatever its checks answer and however far they move the clock:

* with a pause, it makes so many checks at most as there are pauses in the time limit, and two more;
  then it has come to an end, unless the clock has run over;
* if the checks do not move the clock and there is room for one pause beyond the deadline, the clock
  does not run over;
* without a pause, if the checks do not move the clock and never hold, it never ends. -/
theorem wait_ends_in_time (course : Course) (config : WaitConfig) (condition : String)
    (start : Duration) :
    let poll := (course.wait config condition).poll
    (0 < config.interval.nanos → ∀ budget,
      ((poll budget).leaves (start, 0)).2 ≤ config.limit.nanos / config.interval.nanos + 2 ∧
        (config.limit.nanos / config.interval.nanos + 2 ≤ budget →
          (poll budget).outcome (start, 0) ≠ .error .exhausted)) ∧
    ((∀ k, (course k).1 = .zero) →
      start.nanos + config.limit.nanos + config.interval.nanos ≤ Duration.max.nanos →
      ∀ budget, (poll budget).outcome (start, 0) ≠ .error .clockOverflow) ∧
    (config.interval.nanos = 0 → (∀ k, course k = (.zero, .ok false)) →
      ∀ budget, (poll budget).run (start, 0) = .error .exhausted (start, budget)) := by
  intro poll
  refine ⟨fun hpause budget => ?_, fun htimeless hroom budget => ?_, fun hpause hstill budget => ?_⟩
  · have hslept : start.nanos + 0 * config.interval.nanos ≤ start.nanos := by omega
    obtain ⟨hmost, hends⟩ := course.made_le config condition hpause hslept (Nat.zero_le _) budget
    exact ⟨hmost, fun hbudget => hends (by omega)⟩
  · exact course.outcome_rest_ne_clockOverflow config condition htimeless hroom start 0 budget
  · have hrun := course.run_rest_of_still config condition hstill hpause start 0 budget
    rw [Nat.zero_add] at hrun
    exact hrun

/-- The last moment at which a clock has room for a wait of 90 milliseconds and a pause of 30. -/
def Duration.nearMax : Duration := ⟨Duration.max.nanos - 120000000, by decide⟩

/-- A wait in vain makes as many checks as it may, and reads the last time that a clock can show. -/
theorem wait_ends_in_time_near_max :
    let config : WaitConfig := ⟨.ofMillis 90, .ofMillis 30⟩
    let poll := (Course.still.wait config "never").poll
    (0 < config.interval.nanos ∧ config.limit.nanos / config.interval.nanos + 2 ≤ 5 ∧
      ((poll 5).leaves (.nearMax, 0)).2 ≤ 5 ∧ (poll 5).leaves (.nearMax, 0) = (.max, 5) ∧
      (poll 5).outcome (.nearMax, 0) ≠ .error .exhausted) ∧
    ((∀ k, (Course.still k).1 = .zero) ∧
      Duration.nearMax.nanos + config.limit.nanos + config.interval.nanos ≤ Duration.max.nanos ∧
      ∀ budget, (poll budget).outcome (.nearMax, 0) ≠ .error .clockOverflow) ∧
    ((∀ k, Course.still k = (.zero, .ok false)) ∧
      ∀ budget, ((Course.still.wait ⟨.ofMillis 90, .zero⟩ "never").poll budget).run (.nearMax, 0)
        = .error .exhausted (.nearMax, budget)) := by
  intro config poll
  have hroom : Duration.nearMax.nanos + config.limit.nanos + config.interval.nanos
      ≤ Duration.max.nanos := by
    decide
  obtain ⟨hchecks, hclock, -⟩ := wait_ends_in_time Course.still config "never" .nearMax
  obtain ⟨-, -, hendless⟩ := wait_ends_in_time Course.still ⟨.ofMillis 90, .zero⟩ "never" .nearMax
  obtain ⟨hmost, hends⟩ := hchecks (by decide) 5
  refine ⟨⟨by decide, by decide, Nat.le_trans hmost (by decide), by decide, hends (by decide)⟩,
    ⟨fun _ => rfl, hroom, hclock (fun _ => rfl) hroom⟩, fun _ => rfl, ?_⟩
  exact hendless rfl fun _ => rfl

end PagePilot
