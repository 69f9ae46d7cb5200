import Mathlib.Control.Monad.Basic
import PagePilot.Proofs.Matching

/-!
# How waits go

A wait checks, sleeps and checks again. Its checks follow from each other, whatever becomes of the
wait: each is made in the state that the one before it and a sleep leave. The first check that
holds, stops, or comes too late ends the wait, and nothing else does, unless a sleep stops.

## Main definitions

- `Run.outcome`, `Run.leaves` - what a run answers, and the state that it leaves
- `Wait` - a clock and a check, with the limit and the pause of a wait
- `Wait.seen`, `Wait.time`, `Wait.slept` - the checks, the time after each and the sleeps
- `Wait.Ends`, `Wait.answer` - a check ends the wait, with this answer
- `Wait.noting`, `Wait.events` - a wait that takes down what it does
- `Course` - checks that move a manual clock and give one answer after the other

## Main statements

- `Wait.rest_of_slept`, `Wait.rest_of_ends` - what one round does
- `Wait.run_rounds` - rounds up to any check
- `Course.rest_shift` - when a wait begins makes no difference
- `pollUntil_spec` - how a wait goes
-/

namespace PagePilot

variable {ω τ α : Type}

namespace Run

/-- What a run answers. -/
def outcome (run : Run ω α) (w : ω) : Except Stop α :=
  match run.run w with
  | .ok a _ => .ok a
  | .error stop _ => .error stop

/-- The state that a run leaves. -/
def leaves (run : Run ω α) (w : ω) : ω :=
  match run.run w with
  | .ok _ w₁ | .error _ w₁ => w₁

theorem run_eq_ending (run : Run ω α) (w : ω) :
    run.run w = ending (run.outcome w) (run.leaves w) := by
  rw [outcome, leaves]
  cases run.run w <;> rfl

theorem outcome_of_ending {run : Run ω α} {w w₁ : ω} {answer : Except Stop α}
    (h : run.run w = ending answer w₁) : run.outcome w = answer :=
  (ending_inj ((run.run_eq_ending w).symm.trans h)).1

theorem leaves_of_ending {run : Run ω α} {w w₁ : ω} {answer : Except Stop α}
    (h : run.run w = ending answer w₁) : run.leaves w = w₁ :=
  (ending_inj ((run.run_eq_ending w).symm.trans h)).2

/-- A run whose value is changed afterwards. -/
theorem run_map_eq_ending (f : α → τ) (run : Run ω α) (w : ω) :
    (f <$> run).run w = ending ((run.outcome w).map f) (run.leaves w) := by
  have hrun := run.run_eq_ending w
  cases houtcome : run.outcome w with
  | error stop =>
    rw [houtcome] at hrun
    exact run_map_of_error hrun
  | ok a =>
    rw [houtcome] at hrun
    exact run_map_of_ok hrun

theorem outcome_congr {run run' : Run ω α} {w w' : ω} (h : run.run w = run'.run w') :
    run.outcome w = run'.outcome w' := by
  rw [outcome, outcome, h]

theorem leaves_congr {run run' : Run ω α} {w w' : ω} (h : run.run w = run'.run w') :
    run.leaves w = run'.leaves w' := by
  rw [leaves, leaves, h]

end Run

/-- A clock in a state that has another part. -/
def Clock.beside (clock : Clock ω) (τ : Type) : Clock (ω × τ) where
  now := fun (w, t) => ((clock.now w).1, (clock.now w).2, t)
  sleep d := fun (w, t) => Run.ending ((clock.sleep d).outcome w) ((clock.sleep d).leaves w, t)

/-- What a wait waits for and how. -/
structure Wait (ω : Type) where
  clock : Clock ω
  config : WaitConfig
  condition : String
  check : Run ω Bool

namespace Wait

section Checks

variable (wait : Wait ω) (w : ω)

/-- Waits, with so many checks at most. -/
def poll (budget : Nat) : Run ω Unit :=
  pollUntil wait.clock wait.config wait.condition wait.check budget

/-- The time at which the wait begins. -/
def start : Duration := (wait.clock.now w).1

/-- The state in which a check is made, if it comes to that: the state after the check before it
and a sleep. -/
def before : Nat → ω
  | 0 => (wait.clock.now w).2
  | k + 1 => (wait.clock.sleep wait.config.interval).leaves
      (wait.clock.now (wait.check.leaves (before k))).2

/-- What a check sees. -/
def seen (k : Nat) : Except Stop Bool := wait.check.outcome (wait.before w k)

/-- The time right after a check. -/
def time (k : Nat) : Duration := (wait.clock.now (wait.check.leaves (wait.before w k))).1

/-- What the sleep after a check comes to. -/
def slept (k : Nat) : Except Stop Unit :=
  (wait.clock.sleep wait.config.interval).outcome
    (wait.clock.now (wait.check.leaves (wait.before w k))).2

/-- The check ends the wait: it stops, it holds, or more time than the limit has passed after it. -/
def Ends (k : Nat) : Prop :=
  wait.seen w k ≠ .ok false ∨
    wait.config.limit.nanos < (wait.time w k).nanos - (wait.start w).nanos

instance (k : Nat) : Decidable (wait.Ends w k) := inferInstanceAs (Decidable (_ ∨ _))

/-- What the wait answers if the check ends it. -/
def answer (k : Nat) : Except Stop Unit :=
  match wait.seen w k with
  | .error stop => .error stop
  | .ok true => .ok ()
  | .ok false => .error (.failed (.timeout wait.condition wait.config.limit))

/-- The state in which the wait leaves off if the check ends it. A check that does not hold is
followed by a look at the clock. -/
def last (k : Nat) : ω :=
  match wait.seen w k with
  | .error _ | .ok true => wait.check.leaves (wait.before w k)
  | .ok false => (wait.clock.now (wait.check.leaves (wait.before w k))).2

end Checks

/-- What a wait does. -/
inductive Event
  | checked (seen : Except Stop Bool)
  | slept (pause : Duration)
deriving DecidableEq

/-- The run, taking down what it has done. -/
def note (run : Run ω α) (tell : Except Stop α → Event) : Run (ω × List Event) α :=
  fun (w, events) =>
    Run.ending (run.outcome w) (run.leaves w, events ++ [tell (run.outcome w)])

/-- The same wait, which takes down what it does. -/
def noting (wait : Wait ω) : Wait (ω × List Event) where
  clock :=
    { now := (wait.clock.beside (List Event)).now
      sleep := fun d => note (wait.clock.sleep d) fun _ => .slept d }
  config := wait.config
  condition := wait.condition
  check := note wait.check .checked

/-- Everything that the wait does, in its order. -/
def events (wait : Wait ω) (w : ω) (budget : Nat) : List Event :=
  ((wait.noting.poll budget).leaves (w, [])).2

section Noting

variable (wait : Wait ω) (w : ω)

theorem matches_note (run : Run ω α) (tell : Except Stop α → Event) :
    Run.Matches (fun noted w => noted.1 = w) (note run tell) run := by
  rintro ⟨w, events⟩ _ rfl
  exact ⟨run.outcome w, _, _, rfl, run.run_eq_ending w, rfl⟩

/-- To take down what a wait does changes nothing about it. -/
theorem matches_noting (budget : Nat) :
    Run.Matches (fun noted w => noted.1 = w) (wait.noting.poll budget) (wait.poll budget) := by
  refine .pollUntil ?_ (fun d => matches_note (wait.clock.sleep d) fun _ => .slept d)
    (matches_note wait.check .checked) _ _ _
  rintro ⟨w, events⟩ _ rfl
  exact ⟨.ok _, _, _, rfl, rfl, rfl⟩

theorem noting_poll (budget : Nat) :
    (wait.noting.poll budget).outcome (w, []) = (wait.poll budget).outcome w ∧
      ((wait.noting.poll budget).leaves (w, [])).1 = (wait.poll budget).leaves w := by
  obtain ⟨answer, noted, w₁, hnoted, hrun, rfl⟩ := wait.matches_noting budget (w, []) w rfl
  exact ⟨(Run.outcome_of_ending hnoted).trans (Run.outcome_of_ending hrun).symm,
    (congrArg Prod.fst (Run.leaves_of_ending hnoted)).trans (Run.leaves_of_ending hrun).symm⟩

/-- The rounds of a wait that has begun, with notes. -/
def rest (budget : Nat) : Run (ω × List Event) Unit :=
  pollFrom wait.noting.clock wait.config wait.condition wait.noting.check (wait.start w) budget

theorem run_noting_check (k : Nat) (events : List Event) :
    wait.noting.check.run (wait.before w k, events) = Run.ending (wait.seen w k)
      (wait.check.leaves (wait.before w k), events ++ [.checked (wait.seen w k)]) := rfl

theorem run_noting_sleep (k : Nat) (events : List Event) :
    (wait.noting.clock.sleep wait.config.interval).run
        ((wait.clock.now (wait.check.leaves (wait.before w k))).2, events)
      = Run.ending (wait.slept w k)
        (wait.before w (k + 1), events ++ [.slept wait.config.interval]) := rfl

variable {wait w} {k : Nat}

theorem seen_of_not_ends (h : ¬wait.Ends w k) : wait.seen w k = .ok false :=
  Decidable.of_not_not fun hseen => h (.inl hseen)

/-- A check that ends the wait. -/
theorem rest_of_ends (h : wait.Ends w k) (budget : Nat) (events : List Event) :
    (wait.rest w (budget + 1)).run (wait.before w k, events)
      = Run.ending (wait.answer w k)
        (wait.last w k, events ++ [.checked (wait.seen w k)]) := by
  have hcheck := wait.run_noting_check w k events
  rw [answer, last]
  match hseen : wait.seen w k with
  | .error stop =>
    rw [hseen] at hcheck
    exact pollFrom_of_stop hcheck
  | .ok true =>
    rw [hseen] at hcheck
    exact pollFrom_of_holds hcheck
  | .ok false =>
    rw [hseen] at hcheck
    have late := h.resolve_left fun hnot => hnot hseen
    exact pollFrom_of_late hcheck late

/-- A check that does not end the wait is followed by a sleep and by the next check. -/
theorem rest_of_slept (h : ¬wait.Ends w k) (hslept : wait.slept w k = .ok ()) (budget : Nat)
    (events : List Event) :
    (wait.rest w (budget + 1)).run (wait.before w k, events)
      = (wait.rest w budget).run (wait.before w (k + 1),
          events ++ [.checked (wait.seen w k), .slept wait.config.interval]) := by
  have hseen := seen_of_not_ends h
  have hcheck := wait.run_noting_check w k events
  rw [hseen] at hcheck ⊢
  have hsleep := wait.run_noting_sleep w k (events ++ [.checked (.ok false)])
  rw [hslept, List.append_assoc] at hsleep
  exact pollFrom_of_early hcheck (fun late => h (.inr late)) hsleep

/-- A sleep that stops ends the wait. -/
theorem rest_of_sleepless (h : ¬wait.Ends w k) {stop : Stop} (hslept : wait.slept w k = .error stop)
    (budget : Nat) (events : List Event) :
    (wait.rest w (budget + 1)).run (wait.before w k, events)
      = .error stop (wait.before w (k + 1),
          events ++ [.checked (wait.seen w k), .slept wait.config.interval]) := by
  have hseen := seen_of_not_ends h
  have hcheck := wait.run_noting_check w k events
  rw [hseen] at hcheck ⊢
  have hsleep := wait.run_noting_sleep w k (events ++ [.checked (.ok false)])
  rw [hslept, List.append_assoc] at hsleep
  exact pollFrom_of_sleepless hcheck (fun late => h (.inr late)) hsleep

end Noting

section Rounds

variable (wait : Wait ω) (w : ω)

/-- The first checks, each with a sleep after it. -/
def rounds (n : Nat) : List Event :=
  (List.range n).flatMap fun k => [.checked (wait.seen w k), .slept wait.config.interval]

theorem rounds_succ (n : Nat) : wait.rounds w (n + 1)
    = wait.rounds w n ++ [.checked (wait.seen w n), .slept wait.config.interval] := by
  simp [rounds, List.range_succ]

theorem run_noting_poll (budget : Nat) :
    (wait.noting.poll budget).run (w, []) = (wait.rest w budget).run (wait.before w 0, []) := rfl

variable {wait w} {n : Nat}

/-- Rounds up to a check, if none of the checks before it ends the wait. -/
theorem run_rounds (h : ∀ k < n, ¬wait.Ends w k ∧ wait.slept w k = .ok ()) (budget : Nat) :
    (wait.noting.poll (n + budget)).run (w, [])
      = (wait.rest w budget).run (wait.before w n, wait.rounds w n) := by
  induction n generalizing budget with
  | zero => rw [run_noting_poll, Nat.zero_add]; rfl
  | succ n ih =>
    obtain ⟨hgoes, hslept⟩ := h n (by omega)
    have hbefore := ih (fun k hk => h k (by omega)) (budget + 1)
    rw [show n + 1 + budget = n + (budget + 1) by omega, hbefore,
      rest_of_slept hgoes hslept, rounds_succ]

/-- What a wait answers and does can be read off its notes. -/
theorem poll_of_ending {budget : Nat} {answer : Except Stop Unit} {w₁ : ω} {events : List Event}
    (h : (wait.noting.poll budget).run (w, []) = Run.ending answer (w₁, events)) :
    (wait.poll budget).outcome w = answer ∧ wait.events w budget = events :=
  ⟨(wait.noting_poll w budget).1.symm.trans (Run.outcome_of_ending h),
    congrArg Prod.snd (Run.leaves_of_ending h)⟩

/-- The first check that ends the wait does. -/
theorem poll_of_ends (hends : wait.Ends w n)
    (h : ∀ k < n, ¬wait.Ends w k ∧ wait.slept w k = .ok ()) {budget : Nat} (hbudget : n < budget) :
    (wait.poll budget).outcome w = wait.answer w n ∧
      wait.events w budget = wait.rounds w n ++ [.checked (wait.seen w n)] := by
  obtain ⟨spare, rfl⟩ : ∃ spare, budget = n + (spare + 1) := ⟨budget - n - 1, by omega⟩
  have hlast := rest_of_ends hends spare (wait.rounds w n)
  exact poll_of_ending ((run_rounds h (spare + 1)).trans hlast)

theorem leaves_of_ends (hends : wait.Ends w n)
    (h : ∀ k < n, ¬wait.Ends w k ∧ wait.slept w k = .ok ()) {budget : Nat} (hbudget : n < budget) :
    (wait.poll budget).leaves w = wait.last w n := by
  obtain ⟨spare, rfl⟩ : ∃ spare, budget = n + (spare + 1) := ⟨budget - n - 1, by omega⟩
  have hlast := rest_of_ends hends spare (wait.rounds w n)
  rw [← (wait.noting_poll w _).2,
    Run.leaves_of_ending ((run_rounds h (spare + 1)).trans hlast)]

/-- So does the first sleep that stops. -/
theorem poll_of_sleepless {stop : Stop} (hgoes : ¬wait.Ends w n)
    (hslept : wait.slept w n = .error stop)
    (h : ∀ k < n, ¬wait.Ends w k ∧ wait.slept w k = .ok ()) {budget : Nat} (hbudget : n < budget) :
    (wait.poll budget).outcome w = .error stop ∧
      wait.events w budget = wait.rounds w (n + 1) := by
  obtain ⟨spare, rfl⟩ : ∃ spare, budget = n + (spare + 1) := ⟨budget - n - 1, by omega⟩
  have hlast := rest_of_sleepless hgoes hslept spare (wait.rounds w n)
  rw [← rounds_succ] at hlast
  exact poll_of_ending (Run.ending_of_error ((run_rounds h (spare + 1)).trans hlast))

/-- Nothing else ends the wait. -/
theorem poll_of_goes_on (h : ∀ k < n, ¬wait.Ends w k ∧ wait.slept w k = .ok ()) :
    (wait.poll n).outcome w = .error .exhausted ∧ wait.events w n = wait.rounds w n :=
  poll_of_ending (Run.ending_of_error (run_rounds h 0))

/-- The ways in which a wait goes. -/
inductive Way (wait : Wait ω) (w : ω) (budget : Nat) : Prop
  /-- A check ends it. -/
  | ends (n : Nat) (hends : wait.Ends w n) (hbudget : n < budget)
      (h : ∀ k < n, ¬wait.Ends w k ∧ wait.slept w k = .ok ())
  /-- A sleep stops. -/
  | sleepless (n : Nat) (stop : Stop) (hgoes : ¬wait.Ends w n)
      (hslept : wait.slept w n = .error stop) (hbudget : n < budget)
      (h : ∀ k < n, ¬wait.Ends w k ∧ wait.slept w k = .ok ())
  /-- It makes all the checks that it may. -/
  | goesOn (h : ∀ k < budget, ¬wait.Ends w k ∧ wait.slept w k = .ok ())

theorem way (wait : Wait ω) (w : ω) (budget : Nat) : wait.Way w budget := by
  induction budget with
  | zero => exact .goesOn fun k hk => absurd hk (Nat.not_lt_zero k)
  | succ budget ih =>
    cases ih with
    | ends n hends hbudget h => exact .ends n hends (Nat.lt_succ_of_lt hbudget) h
    | sleepless n stop hgoes hslept hbudget h =>
      exact .sleepless n stop hgoes hslept (Nat.lt_succ_of_lt hbudget) h
    | goesOn h =>
      by_cases hends : wait.Ends w budget
      · exact .ends budget hends (Nat.lt_succ_self budget) h
      · cases hslept : wait.slept w budget with
        | error stop => exact .sleepless budget stop hends hslept (Nat.lt_succ_self budget) h
        | ok _ =>
          refine .goesOn fun k hk => ?_
          rcases Nat.lt_succ_iff_lt_or_eq.mp hk with hlt | rfl
          · exact h k hlt
          · exact ⟨hends, hslept⟩

end Rounds

end Wait

/-- What successive checks do: each moves the clock and then gives an answer. -/
abbrev Course := Nat → Duration × Except Failure Bool

namespace Course

variable (course : Course) (config : WaitConfig) (condition : String)

/-- The next check. The state is the time of a manual clock and the number of checks so far. -/
def check : Run (Duration × Nat) Bool := fun (time, made) =>
  match (Clock.advance (course made).1).run time with
  | .ok _ later => Run.ending ((course made).2.mapError .failed) (later, made + 1)
  | .error stop time => .error stop (time, made + 1)

/-- A wait whose checks take their course. -/
def wait : Wait (Duration × Nat) where
  clock := Clock.manual.beside Nat
  config := config
  condition := condition
  check := course.check

/-- The rounds of a wait that began at `start`. -/
def rest (start : Duration) (budget : Nat) : Run (Duration × Nat) Unit :=
  pollFrom (Clock.manual.beside Nat) config condition course.check start budget

section Rounds

variable {course} {time later : Duration} {made : Nat}

theorem run_check_of_some (h : time.add? (course made).1 = some later) :
    course.check.run (time, made)
      = Run.ending ((course made).2.mapError .failed) (later, made + 1) := by
  simp only [check, Clock.advance, EStateM.run, h]

theorem run_check_of_none (h : time.add? (course made).1 = none) :
    course.check.run (time, made) = .error .clockOverflow (time, made + 1) := by
  simp only [check, Clock.advance, EStateM.run, h]

theorem run_sleep_of_some {d : Duration} (h : time.add? d = some later) :
    ((Clock.manual.beside Nat).sleep d).run (time, made) = .ok () (later, made) := by
  simp only [Clock.beside, Clock.manual, Run.outcome, Run.leaves, Clock.advance, EStateM.run, h]
  rfl

theorem run_sleep_of_none {d : Duration} (h : time.add? d = none) :
    ((Clock.manual.beside Nat).sleep d).run (time, made) = .error .clockOverflow (time, made) := by
  simp only [Clock.beside, Clock.manual, Run.outcome, Run.leaves, Clock.advance, EStateM.run, h]
  rfl

end Rounds

/-- One round. -/
theorem run_rest_succ (start : Duration) (budget : Nat) (time : Duration) (made : Nat) :
    (course.rest config condition start (budget + 1)).run (time, made)
      = match time.add? (course made).1 with
        | none => .error .clockOverflow (time, made + 1)
        | some later =>
          match (course made).2 with
          | .error failure => .error (.failed failure) (later, made + 1)
          | .ok true => .ok () (later, made + 1)
          | .ok false =>
            if config.limit < later.since start then
              .error (.failed (.timeout condition config.limit)) (later, made + 1)
            else
              match later.add? config.interval with
              | none => .error .clockOverflow (later, made + 1)
              | some next => (course.rest config condition start budget).run (next, made + 1) := by
  cases hmoved : time.add? (course made).1 with
  | none => exact pollFrom_of_stop (run_check_of_none hmoved)
  | some later =>
    have hcheck := run_check_of_some hmoved
    match hanswer : (course made).2 with
    | .error failure =>
      rw [hanswer] at hcheck
      exact pollFrom_of_stop hcheck
    | .ok true =>
      rw [hanswer] at hcheck
      exact pollFrom_of_holds hcheck
    | .ok false =>
      rw [hanswer] at hcheck
      by_cases late : config.limit < later.since start
      · simp only [if_pos late]
        exact pollFrom_of_late hcheck late
      · simp only [if_neg late]
        cases hslept : later.add? config.interval with
        | none => exact pollFrom_of_sleepless hcheck late (run_sleep_of_none hslept)
        | some next => exact pollFrom_of_early hcheck late (run_sleep_of_some hslept)

/-- Two waits over the same course, of which one has begun later than the other: unless a clock runs
over, they answer the same after as many checks and as much time. -/
theorem rest_shift {start start' time time' : Duration}
    (h : time.nanos + start'.nanos = time'.nanos + start.nanos) (made budget : Nat) :
    let run := course.rest config condition start budget
    let run' := course.rest config condition start' budget
    run.outcome (time, made) ≠ .error .clockOverflow →
      run'.outcome (time', made) ≠ .error .clockOverflow →
      run'.outcome (time', made) = run.outcome (time, made) ∧
        (run'.leaves (time', made)).2 = (run.leaves (time, made)).2 ∧
        (run.leaves (time, made)).1.nanos + start'.nanos
          = (run'.leaves (time', made)).1.nanos + start.nanos := by
  -- what carries the induction is that both are equally far from their beginnings
  induction budget generalizing time time' made with
  | zero => exact fun _ _ => ⟨rfl, rfl, h⟩
  | succ budget ih =>
    simp only [Run.outcome, Run.leaves, run_rest_succ]
    cases hmoved : time.add? (course made).1 with
    | none => exact fun hrun => absurd rfl hrun
    | some later =>
      cases hmoved' : time'.add? (course made).1 with
      | none => exact fun _ hrun' => absurd rfl hrun'
      | some later' =>
        rw [Duration.add?_eq_some] at hmoved hmoved'
        have hlater : later.nanos + start'.nanos = later'.nanos + start.nanos := by omega
        match (course made).2 with
        | .error failure => exact fun _ _ => ⟨rfl, rfl, hlater⟩
        | .ok true => exact fun _ _ => ⟨rfl, rfl, hlater⟩
        | .ok false =>
          have hsince : later.since start = later'.since start' :=
            Duration.ext_nanos (by simp only [Duration.since]; omega)
          simp only [hsince]
          by_cases late : config.limit < later'.since start'
          · simp only [if_pos late]
            exact fun _ _ => ⟨trivial, trivial, hlater⟩
          · simp only [if_neg late]
            cases hslept : later.add? config.interval with
            | none => exact fun hrun => absurd rfl hrun
            | some next =>
              cases hslept' : later'.add? config.interval with
              | none => exact fun _ hrun' => absurd rfl hrun'
              | some next' =>
                rw [Duration.add?_eq_some] at hslept hslept'
                exact ih (by omega) (made + 1)

end Course

/-- How a wait goes, whatever its clock and its check do. To take down what it does changes nothing
about it.

* The first check that ends the wait settles the answer: what the check has stopped with, or success
  if it holds, or else a timeout. By then the wait has made the checks up to this one, with one
  sleep of the given length between each two of them, and has done nothing else.
* The first sleep that stops ends the wait as well.
* If no check ends it and no sleep stops, the wait goes on for as long as it may.
* On a manual clock that does not run over, it makes no difference to what the wait answers, how
  often it checks and how long it takes when it begins. -/
theorem pollUntil_spec (wait : Wait ω) (w : ω) :
    (∀ budget, (wait.noting.poll budget).outcome (w, []) = (wait.poll budget).outcome w ∧
      ((wait.noting.poll budget).leaves (w, [])).1 = (wait.poll budget).leaves w) ∧
    (∀ n, wait.Ends w n → (∀ k < n, ¬wait.Ends w k ∧ wait.slept w k = .ok ()) →
      ∀ budget, n < budget → (wait.poll budget).outcome w = wait.answer w n ∧
        wait.events w budget = wait.rounds w n ++ [.checked (wait.seen w n)]) ∧
    (∀ n stop, ¬wait.Ends w n → wait.slept w n = .error stop →
      (∀ k < n, ¬wait.Ends w k ∧ wait.slept w k = .ok ()) →
      ∀ budget, n < budget → (wait.poll budget).outcome w = .error stop ∧
        wait.events w budget = wait.rounds w (n + 1)) ∧
    ((∀ k, ¬wait.Ends w k ∧ wait.slept w k = .ok ()) →
      ∀ budget, (wait.poll budget).outcome w = .error .exhausted ∧
        wait.events w budget = wait.rounds w budget) ∧
    ∀ (course : Course) (config : WaitConfig) (condition : String) (start start' : Duration)
      (budget : Nat),
      let poll := (course.wait config condition).poll budget
      poll.outcome (start, 0) ≠ .error .clockOverflow →
        poll.outcome (start', 0) ≠ .error .clockOverflow →
        poll.outcome (start', 0) = poll.outcome (start, 0) ∧
          (poll.leaves (start', 0)).2 = (poll.leaves (start, 0)).2 ∧
          (poll.leaves (start, 0)).1.nanos + start'.nanos
            = (poll.leaves (start', 0)).1.nanos + start.nanos := by
  refine ⟨wait.noting_poll w, fun n hends h budget hbudget => Wait.poll_of_ends hends h hbudget,
    fun n stop hgoes hslept h budget hbudget => Wait.poll_of_sleepless hgoes hslept h hbudget,
    fun h budget => Wait.poll_of_goes_on fun k _ => h k, ?_⟩
  intro course config condition start start' budget
  exact course.rest_shift config condition (Nat.add_comm _ _) 0 budget

/-- Three checks, of which the second ends at the limit to the nanosecond; the third comes late. -/
def Course.belated : Course
  | 0 => (.ofMillis 10, .ok false)
  | 1 => (.ofMillis 60, .ok false)
  | _ => (.zero, .ok true)

/-- Checks that never hold and take no time. -/
def Course.still : Course := fun _ => (.zero, .ok false)

theorem Course.before_still (limit : Duration) (condition : String) (k : Nat) :
    (still.wait ⟨limit, .zero⟩ condition).before (.zero, 0) k = (.zero, k) := by
  induction k with
  | zero => rfl
  | succ k ih =>
    rw [Wait.before, ih]
    rfl

/-- A check that holds beats the time limit, a clock at its end cannot be slept on, and a wait
without pauses has no end. -/
theorem pollUntil_spec_on_manual_clock :
    let config : WaitConfig := ⟨.ofMillis 100, .ofMillis 30⟩
    let belated := Course.belated.wait config "late"
    let still := Course.still.wait config "never"
    let restless := Course.still.wait ⟨.zero, .zero⟩ "never"
    (belated.Ends (.ofMillis 5, 0) 2 ∧
      (∀ k < 2, ¬belated.Ends (.ofMillis 5, 0) k ∧ belated.slept (.ofMillis 5, 0) k = .ok ()) ∧
      ∀ budget, 2 < budget → (belated.poll budget).outcome (.ofMillis 5, 0) = .ok () ∧
        belated.events (.ofMillis 5, 0) budget
          = [.checked (.ok false), .slept (.ofMillis 30), .checked (.ok false),
              .slept (.ofMillis 30), .checked (.ok true)]) ∧
    (¬still.Ends (.max, 0) 0 ∧ still.slept (.max, 0) 0 = .error .clockOverflow ∧
      still.events (.max, 0) 1 = [.checked (.ok false), .slept (.ofMillis 30)]) ∧
    ((∀ k, ¬restless.Ends (.zero, 0) k ∧ restless.slept (.zero, 0) k = .ok ()) ∧
      ∀ budget, (restless.poll budget).outcome (.zero, 0) = .error .exhausted) ∧
    (belated.poll 3).outcome (.ofMillis 700, 0) = .ok () ∧
    ((belated.poll 3).leaves (.ofMillis 5, 0)).1.nanos + (Duration.ofMillis 700).nanos
      = ((belated.poll 3).leaves (.ofMillis 700, 0)).1.nanos + (Duration.ofMillis 5).nanos := by
  intro config belated still restless
  have hgoes : ∀ k < 2, ¬belated.Ends (.ofMillis 5, 0) k ∧
      belated.slept (.ofMillis 5, 0) k = .ok () := by
    decide
  have hseen : belated.rounds (.ofMillis 5, 0) 2 ++ [.checked (belated.seen (.ofMillis 5, 0) 2)]
      = [.checked (.ok false), .slept (.ofMillis 30), .checked (.ok false),
          .slept (.ofMillis 30), .checked (.ok true)] := by
    decide
  have hrestless : ∀ k, ¬restless.Ends (.zero, 0) k ∧ restless.slept (.zero, 0) k = .ok () := by
    intro k
    have hbefore : restless.before (.zero, 0) k = (.zero, k) := Course.before_still _ _ k
    have hcheck : restless.seen (.zero, 0) k = .ok false := by
      rw [Wait.seen, hbefore]
      rfl
    refine ⟨?_, ?_⟩
    · rintro (hseen | late)
      · exact hseen hcheck
      · rw [Wait.time, hbefore] at late
        exact Nat.lt_irrefl 0 late
    · rw [Wait.slept, hbefore]
      rfl
  obtain ⟨-, hends, -, -, hshift⟩ := pollUntil_spec belated (.ofMillis 5, 0)
  obtain ⟨-, -, hsleepless, -, -⟩ := pollUntil_spec still (.max, 0)
  obtain ⟨-, -, -, hnever, -⟩ := pollUntil_spec restless (.zero, 0)
  have hlater := hshift Course.belated config "late" (.ofMillis 5) (.ofMillis 700) 3 (by decide)
    (by decide)
  have hbelated (budget : Nat) (hbudget : 2 < budget) := hends 2 (by decide) hgoes budget hbudget
  rw [hseen, show belated.answer (.ofMillis 5, 0) 2 = .ok () by decide] at hbelated
  refine ⟨⟨by decide, hgoes, hbelated⟩, ⟨by decide, by decide, ?_⟩,
    ⟨hrestless, fun budget => (hnever hrestless budget).1⟩, ?_, ?_⟩
  · exact (hsleepless 0 .clockOverflow (by decide) (by decide) nofun 1 (by decide)).2
  · exact hlater.1.trans (hbelated 3 (by decide)).1
  · simpa only [belated] using hlater.2.2

end PagePilot
