import Mathlib.Algebra.GroupWithZero.Nat
import PagePilot.Proofs.Termination

/-!
# Where the time of a run goes

On a manual clock that nothing but sleeps moves, every action that a run executes takes the time
that it says: a delay its duration, a wait one pause less than it has asked the page, and any other
action none. A sleep beyond the longest duration ends the run and leaves the clock where it is.

## Main definitions

- `World.marks` - what the journal tells of actions that are begun and of evaluations
- `Turn` - an action that has been executed, with the number of its evaluations
- `Environment.OnSleepClock` - only sleeps move the clock of an environment
- `World.Spends` - a world is reached from another one by certain turns, in their time

## Main statements

- `Setting.spends_execute`, `Setting.Executes.spends` - what one action takes, and what a queue does
- `run_time` - what a run takes
-/

namespace PagePilot

variable {σ α β : Type}

/-- What a journal tells of the time of a run. -/
inductive Mark (σ : Type)
  | began (action : Action σ)
  /-- The page was asked to evaluate something. -/
  | asked

def Entry.mark? : Entry σ → Option (Mark σ)
  | .began _ action => some (.began action)
  | .called (.evaluate _ _) _ => some .asked
  | _ => none

/-- The actions that have been begun and the evaluations, in their order. -/
def World.marks (w : World σ) : List (Mark σ) := w.told Entry.mark?

/-- An action that has been executed, queued or registered, and how often it has asked the page. -/
structure Turn (σ : Type) where
  action : Action σ
  asked : Nat

namespace Turn

/-- What the journal tells of a turn. -/
def marks (turn : Turn σ) : List (Mark σ) :=
  .began turn.action :: List.replicate turn.asked .asked

/-- The nanoseconds that a turn takes. -/
def nanos (pause : Duration) (turn : Turn σ) : Nat :=
  match turn.action with
  | .delay duration => duration.nanos
  | .waitForSelector _ | .waitForFunction _ _ => pause.nanos * (turn.asked - 1)
  | _ => 0

/-- The sleep with which a turn may end early, and the nanoseconds that it has taken before. -/
def cut? (pause : Duration) (turn : Turn σ) : Option (Duration × Nat) :=
  match turn.action with
  | .delay duration => some (duration, 0)
  | .waitForSelector _ | .waitForFunction _ _ => some (pause, pause.nanos * (turn.asked - 1))
  | _ => none

end Turn

/-- The action waits for an answer of the page. -/
def Action.IsWait : Action σ → Prop
  | .waitForSelector _ | .waitForFunction _ _ => True
  | _ => False

/-- The action is a built-in one, and whoever takes what it evaluates leaves the clock alone. -/
def Action.KeepsTime (time : σ → Duration) : Action σ → Prop
  | .eval _ _ (some receive) => ∀ answer host,
    time ((receive answer).run { host := host }).2.host = time host
  | .custom _ _ _ => False
  | _ => True

theorem Action.KeepsTime.afterLine {time : σ → Duration} {action : Action σ}
    (h : action.KeepsTime time) (host : σ) : action.afterLine host = host := by
  refine action.afterLine_of_fixed host (action.tell_of_builtin ?_)
  rintro name line body rfl
  exact h

/-- The call leaves the clock alone and does not fail because of it. -/
structure Host.KeepsTime (time : σ → Duration) (call : Host Failure σ α) : Prop where
  ok {before after : Hosted σ} {a : α} :
    call.run before = .ok a after → time after.host = time before.host
  error {before after : Hosted σ} {fault : Fault Failure} :
    call.run before = .error fault after → time after.host = time before.host
      ∧ fault ≠ .clockOverflow

/-- The clock of an environment is a manual one. The page leaves it alone, and so does a sleep that
would move it too far. -/
structure Environment.OnSleepClock (env : Environment σ) (time : σ → Duration) : Prop
    extends env.OnManualClock time where
  page (call : PageCall) : Host.KeepsTime time (env.call call)
  refused (d : Duration) (before after : Hosted σ) :
    (env.sleep d).run before = .error .clockOverflow after → time after.host = time before.host

/-- From the one world, the other is reached by turns, the last of which has given the answer. They
take their time, unless a sleep has been refused to the last one; then it has taken the time before
this sleep, and the sleep would have moved the clock too far. -/
structure World.Spends (time : σ → Duration) (pause : Duration) (w : World σ)
    (turns : List (Turn σ)) (answer : Except Stop Unit) (w' : World σ) : Prop where
  marks : w'.marks = w.marks ++ turns.flatMap Turn.marks
  asked : ∀ turn ∈ turns, turn.action.IsWait → 1 ≤ turn.asked
  whole : answer ≠ .error .clockOverflow →
    (time w'.host).nanos = (time w.host).nanos + (turns.map (Turn.nanos pause)).sum
  cut : answer = .error .clockOverflow → ∃ before last sleep nanos, turns = before ++ [last] ∧
    last.cut? pause = some (sleep, nanos) ∧
    (time w'.host).nanos
      = (time w.host).nanos + (before.map (Turn.nanos pause)).sum + nanos ∧
    Duration.limit ≤ (time w'.host).nanos + sleep.nanos

namespace World.Spends

variable {time : σ → Duration} {pause : Duration} {w w₁ w₂ : World σ}
  {turns more : List (Turn σ)} {answer : Except Stop Unit}

theorem nil (w : World σ) : w.Spends time pause [] (.ok ()) w where
  marks := (List.append_nil _).symm
  asked _ hmem := absurd hmem List.not_mem_nil
  whole _ := rfl
  cut hcut := nomatch hcut

theorem append (h : w.Spends time pause turns (.ok ()) w₁)
    (hmore : w₁.Spends time pause more answer w₂) :
    w.Spends time pause (turns ++ more) answer w₂ where
  marks := by rw [hmore.marks, h.marks, List.flatMap_append, List.append_assoc]
  asked := List.forall_mem_append.mpr ⟨h.asked, hmore.asked⟩
  whole hanswer := by
    rw [hmore.whole hanswer, h.whole nofun, List.map_append, List.sum_append, Nat.add_assoc]
  cut hcut := by
    obtain ⟨before, last, sleep, nanos, rfl, hlast, htime, hlimit⟩ := hmore.cut hcut
    refine ⟨turns ++ before, last, sleep, nanos, (List.append_assoc _ _ _).symm, hlast, ?_, hlimit⟩
    rw [htime, h.whole nofun, List.map_append, List.sum_append, ← Nat.add_assoc]

/-- The clock is never turned back. -/
theorem time_le (h : w.Spends time pause turns answer w₁) : time w.host ≤ time w₁.host := by
  show (time w.host).nanos ≤ (time w₁.host).nanos
  by_cases hanswer : answer = .error .clockOverflow
  · obtain ⟨before, last, sleep, nanos, -, -, htime, -⟩ := h.cut hanswer
    omega
  · have htime := h.whole hanswer
    omega

/-- The line that tells of a failure takes no time. -/
theorem afterStop {s : Setting σ} {stop : Stop} {action : Action σ}
    (h : w.Spends time pause turns (.error stop) w₁)
    (hline : ∀ host, action.afterLine host = host) (skipped : Nat) :
    w.Spends time pause turns (.error stop) (s.afterStop action skipped stop w₁) := by
  have hmarks : (s.afterStop action skipped stop w₁).marks = w₁.marks :=
    Setting.told_afterStop (fun _ => rfl) action skipped stop w₁
  have hhost := Setting.host_afterStop_eq_self (s := s) hline skipped stop w₁
  exact ⟨hmarks.trans h.marks, h.asked, hhost ▸ h.whole, hhost ▸ h.cut⟩

end World.Spends

theorem World.marks_begin (debug : Bool) (role : Role) (action : Action σ) (w : World σ) :
    (w.begin debug role action).marks = w.marks ++ [.began action] :=
  told_begin (fun _ => rfl) debug role action w

/-- The run asks the page some times and leaves the clock alone, whatever it comes to. -/
def Run.KeepsTime (time : σ → Duration) (run : Run (World σ) α) : Prop :=
  ∀ w answer w', run.run w = ending answer w' → time w'.host = time w.host ∧
    answer ≠ .error .clockOverflow ∧ ∃ asked, w'.marks = w.marks ++ List.replicate asked .asked

namespace Run.KeepsTime

variable {time : σ → Duration} {run : Run (World σ) α}

theorem of_silent (h : ∀ w, ∃ answer w', run.run w = ending answer w' ∧
    time w'.host = time w.host ∧ answer ≠ .error .clockOverflow ∧ w'.marks = w.marks) :
    run.KeepsTime time := by
  intro w answer w' hrun
  obtain ⟨answer', w₁, hrun', htime, hanswer, hmarks⟩ := h w
  obtain ⟨rfl, rfl⟩ := ending_inj (hrun.symm.trans hrun')
  exact ⟨htime, hanswer, 0, hmarks.trans (List.append_nil _).symm⟩

theorem pure (a : α) : KeepsTime time (Pure.pure a : Run (World σ) α) :=
  of_silent fun w => ⟨.ok a, w, rfl, rfl, nofun, rfl⟩

theorem ofExcept (verdict : Except Failure α) :
    KeepsTime time (Run.ofExcept verdict : Run (World σ) α) := by
  refine of_silent fun w => ?_
  cases verdict with
  | ok a => exact ⟨.ok a, w, rfl, rfl, nofun, rfl⟩
  | error failure => exact ⟨.error (.failed failure), w, rfl, rfl, nofun, rfl⟩

theorem aside {code : Aside σ α}
    (h : ∀ host, time (code.run { host := host }).2.host = time host) :
    KeepsTime time (World.aside code) := by
  refine of_silent fun w => ⟨.ok _, _, rfl, h w.host, nofun, ?_⟩
  refine World.told_eq_of_added rfl fun entry hentry => ?_
  obtain ⟨record, -, rfl⟩ := by simpa using hentry
  rfl

theorem bind {next : α → Run (World σ) β} (h : run.KeepsTime time)
    (hnext : ∀ a, (next a).KeepsTime time) : (run >>= next).KeepsTime time := by
  intro w answer w' hrun
  cases hfirst : run.run w with
  | ok a w₁ =>
    obtain ⟨htime, -, asked, hmarks⟩ := h w (.ok a) w₁ hfirst
    obtain ⟨htime', hanswer, more, hmarks'⟩ :=
      hnext a w₁ answer w' ((run_bind_of_ok hfirst).symm.trans hrun)
    refine ⟨htime'.trans htime, hanswer, asked + more, ?_⟩
    rw [hmarks', hmarks, List.append_assoc, List.replicate_append_replicate]
  | error stop w₁ =>
    obtain ⟨htime, hstop, asked, hmarks⟩ := h w (.error stop) w₁ hfirst
    obtain ⟨rfl, rfl⟩ := ending_eq_of_error hrun (run_bind_of_error hfirst)
    exact ⟨htime, fun heq => hstop (by cases heq; rfl), asked, hmarks⟩

end Run.KeepsTime

/-- Such a call, made by a run. -/
theorem World.keepsTime_ask {time : σ → Duration} {call : Host Failure σ α}
    {entry : Bool → Entry σ} (h : Host.KeepsTime time call) {w w' : World σ}
    {answer : Except Stop α} (hrun : (World.ask call entry).run w = Run.ending answer w') :
    time w'.host = time w.host ∧ answer ≠ .error .clockOverflow := by
  cases answer with
  | ok a =>
    obtain ⟨after, hcall, hhost⟩ := run_ask_of_ok hrun
    exact ⟨hhost ▸ h.ok hcall, nofun⟩
  | error stop =>
    obtain ⟨fault, after, hcall, rfl, hhost⟩ := run_ask_of_error hrun
    obtain ⟨htime, hfault⟩ := h.error hcall
    refine ⟨hhost ▸ htime, fun hcut => ?_⟩
    cases fault with
    | failed failure => cases hcut
    | clockOverflow => exact hfault rfl

/-- The run asks the page once and leaves the clock alone, whatever it comes to. -/
def Run.AsksOnce (time : σ → Duration) (run : Run (World σ) α) : Prop :=
  ∀ w answer w', run.run w = ending answer w' → time w'.host = time w.host ∧
    answer ≠ .error .clockOverflow ∧ w'.marks = w.marks ++ [.asked]

namespace Environment.OnSleepClock

variable {env : Environment σ} {time : σ → Duration} (h : env.OnSleepClock time)

include h

theorem keepsTime_doCall (call : PageCall) : (env.doCall call).KeepsTime time := by
  intro w answer w' hrun
  have hmarks : w'.marks = w.marks ++ (Entry.mark? (.called call answer.isOk)).toList :=
    World.told_ask (fun _ => rfl) hrun
  have hasked : ∃ asked, (Entry.mark? (.called call answer.isOk) : Option (Mark σ)).toList
      = List.replicate asked .asked := by
    cases call with
    | evaluate function args => exact ⟨1, rfl⟩
    | _ => exact ⟨0, rfl⟩
  obtain ⟨asked, hasked⟩ := hasked
  obtain ⟨htime, hanswer⟩ := World.keepsTime_ask (h.page call) hrun
  exact ⟨htime, hanswer, asked, hasked ▸ hmarks⟩

theorem asksOnce_evaluate (holds : Json → Bool) (function : String) (args : List Json) :
    Run.AsksOnce time (holds <$> env.doCall (.evaluate function args)) := by
  intro w answer w' hrun
  have hmarks {answer : Except Stop Json} {w' : World σ}
      (hcall : (env.doCall (.evaluate function args)).run w = Run.ending answer w') :
      w'.marks = w.marks ++ [.asked] := World.told_ask (fun _ => rfl) hcall
  cases hcall : (env.doCall (.evaluate function args)).run w with
  | ok value w₁ =>
    obtain ⟨htime, -, -⟩ := h.keepsTime_doCall _ w (.ok value) w₁ hcall
    have hasked := hmarks (Run.ending_of_ok hcall)
    obtain ⟨rfl, rfl⟩ := Run.ending_eq_of_ok hrun (Run.run_map_of_ok hcall)
    exact ⟨htime, nofun, hasked⟩
  | error stop w₁ =>
    obtain ⟨htime, hstop, -⟩ := h.keepsTime_doCall _ w (.error stop) w₁ hcall
    have hasked := hmarks (Run.ending_of_error hcall)
    obtain ⟨rfl, rfl⟩ := Run.ending_eq_of_error hrun (Run.run_map_of_error hcall)
    exact ⟨htime, fun hcut => hstop (by cases hcut; rfl), hasked⟩

/-- A sleep moves the clock by its duration, or the clock cannot be moved so far and stays. -/
theorem sleep_cases (d : Duration) (w : World σ) :
    (∃ w', (env.clock.sleep d).run w = .ok () w' ∧ w'.marks = w.marks ∧
      (time w'.host).nanos = (time w.host).nanos + d.nanos) ∨
    ∃ w', (env.clock.sleep d).run w = .error .clockOverflow w' ∧ w'.marks = w.marks ∧
      time w'.host = time w.host ∧ Duration.limit ≤ (time w.host).nanos + d.nanos := by
  have hmarks {answer : Except Stop Unit} {w' : World σ}
      (hrun : (env.clock.sleep d).run w = Run.ending answer w') : w'.marks = w.marks :=
    (World.told_ask (fun _ => rfl) hrun).trans (List.append_nil _)
  rcases h.sleep d { host := w.host } with
    ⟨later, after, hadd, hsleep, htime⟩ | ⟨hadd, after, hsleep⟩
  · have hrun := World.ask_of_ok hsleep (.slept d) w.journal
    refine .inl ⟨_, hrun, hmarks (Run.ending_of_ok hrun), ?_⟩
    rw [← Duration.add?_eq_some.mp hadd, ← htime]
  · have hrun := World.ask_of_error hsleep (.slept d) w.journal
    exact .inr ⟨_, hrun, hmarks (Run.ending_of_error hrun),
      h.refused d _ after hsleep, Duration.add?_eq_none.mp hadd⟩

variable {config : WaitConfig} {condition : String} {check : Run (World σ) Bool} {start : Duration}
  {budget : Nat} {w w' : World σ} {answer : Except Stop Unit}

/-- A round of a wait asks the page once. It ends the wait, perhaps because there is no time for a
pause, or it pauses and the wait goes on. -/
theorem round_cases (hcheck : check.AsksOnce time)
    (hrun : (pollFrom env.clock config condition check start (budget + 1)).run w
      = Run.ending answer w') :
    (w'.marks = w.marks ++ [.asked] ∧ time w'.host = time w.host ∧
      (answer = .error .clockOverflow →
        Duration.limit ≤ (time w.host).nanos + config.interval.nanos)) ∨
    ∃ w₁, w₁.marks = w.marks ++ [.asked] ∧
      (time w₁.host).nanos = (time w.host).nanos + config.interval.nanos ∧
      (pollFrom env.clock config condition check start budget).run w₁ = Run.ending answer w' := by
  cases hchecked : check.run w with
  | error stop w₁ =>
    obtain ⟨htime, hstop, hmarks⟩ := hcheck w (.error stop) w₁ hchecked
    obtain ⟨rfl, rfl⟩ := Run.ending_eq_of_error hrun (pollFrom_of_stop hchecked)
    exact .inl ⟨hmarks, htime, fun hcut => absurd (by cases hcut; rfl) hstop⟩
  | ok verdict w₁ =>
    obtain ⟨htime, -, hmarks⟩ := hcheck w (.ok verdict) w₁ hchecked
    have hnow := h.clock_now w₁
    cases verdict with
    | true =>
      obtain ⟨rfl, rfl⟩ := Run.ending_eq_of_ok hrun (pollFrom_of_holds hchecked)
      exact .inl ⟨hmarks, htime, nofun⟩
    | false =>
      by_cases hlate : config.limit < (env.clock.now w₁).1.since start
      · obtain ⟨rfl, rfl⟩ := Run.ending_eq_of_error hrun (pollFrom_of_late hchecked hlate)
        rw [hnow]
        exact .inl ⟨hmarks, htime, nofun⟩
      · rcases h.sleep_cases config.interval w₁ with
          ⟨w₂, hslept, hmarks₂, hmoved⟩ | ⟨w₂, hslept, hmarks₂, hkept, hlimit⟩
        · rw [pollFrom_of_early hchecked hlate (by rw [hnow]; exact hslept)] at hrun
          exact .inr ⟨w₂, hmarks₂.trans hmarks, htime ▸ hmoved, hrun⟩
        · obtain ⟨rfl, rfl⟩ := Run.ending_eq_of_error hrun
            (pollFrom_of_sleepless hchecked hlate (by rw [hnow]; exact hslept))
          exact .inl ⟨hmarks₂.trans hmarks, hkept.trans htime, fun _ => htime ▸ hlimit⟩

/-- A wait pauses between its evaluations, of which it makes one at least. -/
theorem pollFrom_pauses (hcheck : check.AsksOnce time)
    (hrun : (pollFrom env.clock config condition check start budget).run w = Run.ending answer w')
    (hanswer : answer ≠ .error .exhausted) :
    ∃ pauses, w'.marks = w.marks ++ List.replicate (pauses + 1) .asked ∧
      (time w'.host).nanos = (time w.host).nanos + config.interval.nanos * pauses ∧
      (answer = .error .clockOverflow →
        Duration.limit ≤ (time w'.host).nanos + config.interval.nanos) := by
  induction budget generalizing w with
  | zero =>
    obtain ⟨rfl, -⟩ := Run.ending_eq_of_error hrun pollFrom_zero
    exact absurd rfl hanswer
  | succ budget ih =>
    rcases h.round_cases hcheck hrun with ⟨hmarks, htime, hcut⟩ | ⟨w₁, hmarks, htime, hrest⟩
    · exact ⟨0, hmarks, congrArg Duration.nanos htime, htime ▸ hcut⟩
    · obtain ⟨pauses, hmarks', htime', hcut⟩ := ih hrest
      refine ⟨pauses + 1, ?_, ?_, hcut⟩
      · rw [hmarks', hmarks, List.append_assoc]
        rfl
      · rw [htime', htime, Nat.mul_succ, Nat.add_right_comm, Nat.add_assoc]

theorem waitUntil_pauses {s : Setting σ} (henv : s.env = env) {condition function : String}
    {args : List Json} {holds : Json → Bool}
    (hrun : (s.waitUntil condition function args holds).run w = Run.ending answer w')
    (hanswer : answer ≠ .error .exhausted) :
    ∃ pauses, w'.marks = w.marks ++ List.replicate (pauses + 1) .asked ∧
      (time w'.host).nanos = (time w.host).nanos + s.options.pollInterval.nanos * pauses ∧
      (answer = .error .clockOverflow →
        Duration.limit ≤ (time w'.host).nanos + s.options.pollInterval.nanos) := by
  subst henv
  rw [Setting.waitUntil, Setting.evaluate, pollUntil, Run.run_bind_of_ok (h.run_read w)] at hrun
  exact h.pollFrom_pauses (h.asksOnce_evaluate holds function args) hrun hanswer

end Environment.OnSleepClock

namespace World

variable {time : σ → Duration} {pause : Duration} {w w' : World σ} {debug : Bool} {role : Role}
  {action : Action σ} {answer : Except Stop Unit}

/-- One turn. -/
theorem spends_turn {asked : Nat}
    (hmarks : w'.marks = (w.begin debug role action).marks ++ List.replicate asked .asked)
    (hasked : action.IsWait → 1 ≤ asked)
    (hwhole : answer ≠ .error .clockOverflow →
      (time w'.host).nanos = (time w.host).nanos + Turn.nanos pause ⟨action, asked⟩)
    (hcut : answer = .error .clockOverflow → ∃ sleep nanos,
      Turn.cut? pause ⟨action, asked⟩ = some (sleep, nanos) ∧
      (time w'.host).nanos = (time w.host).nanos + nanos ∧
      Duration.limit ≤ (time w'.host).nanos + sleep.nanos) :
    ∃ turns, w.Spends time pause turns answer w' := by
  refine ⟨[⟨action, asked⟩], ?_, List.forall_mem_singleton.mpr hasked, hwhole, fun hanswer => ?_⟩
  · rw [hmarks, marks_begin, List.flatMap_singleton, List.append_assoc]
    rfl
  · obtain ⟨sleep, nanos, hlast, htime, hlimit⟩ := hcut hanswer
    exact ⟨[], ⟨action, asked⟩, sleep, nanos, rfl, hlast, htime, hlimit⟩

/-- The turn of an action that leaves the clock alone. -/
theorem spends_of_keepsTime {run : Run (World σ) Unit} (h : run.KeepsTime time)
    (hline : ∀ host, action.afterLine host = host)
    (hnone : ∀ asked, Turn.nanos pause ⟨action, asked⟩ = 0) (hwait : ¬ action.IsWait)
    (hrun : run.run (w.begin debug role action) = Run.ending answer w') :
    ∃ turns, w.Spends time pause turns answer w' := by
  obtain ⟨htime, hanswer, asked, hmarks⟩ := h _ answer w' hrun
  rw [World.host_begin hline] at htime
  refine spends_turn hmarks (fun h => absurd h hwait) (fun _ => ?_) fun hcut => absurd hcut hanswer
  rw [htime, hnone, Nat.add_zero]

/-- The turn of a wait. -/
theorem spends_of_pauses {pauses : Nat} (hline : ∀ host, action.afterLine host = host)
    (hmarks : w'.marks
      = (w.begin debug role action).marks ++ List.replicate (pauses + 1) .asked)
    (htime : (time w'.host).nanos
      = (time (w.begin debug role action).host).nanos + pause.nanos * pauses)
    (hcut : answer = .error .clockOverflow → Duration.limit ≤ (time w'.host).nanos + pause.nanos)
    (hnanos : ∀ asked, Turn.nanos pause ⟨action, asked⟩ = pause.nanos * (asked - 1))
    (hlast : ∀ asked,
      Turn.cut? pause ⟨action, asked⟩ = some (pause, pause.nanos * (asked - 1))) :
    ∃ turns, w.Spends time pause turns answer w' := by
  rw [World.host_begin hline] at htime
  refine spends_turn hmarks (fun _ => Nat.succ_pos _) (fun _ => ?_) fun hanswer => ?_
  · rw [htime, hnanos, Nat.add_sub_cancel]
  · exact ⟨pause, _, hlast _, by rw [htime, Nat.add_sub_cancel], hcut hanswer⟩

end World

namespace Setting

variable {s : Setting σ} {time : σ → Duration} {w w' : World σ} {role : Role} {action : Action σ}
  {navigate : String → Run (World σ) Unit} {answer : Except Stop Unit}

/-- The turn of a delay. -/
theorem spends_delay (hclock : s.env.OnSleepClock time) {duration : Duration}
    (hrun : (s.env.clock.sleep duration).run (w.begin s.options.debug role (.delay duration))
      = Run.ending answer w') :
    ∃ turns, w.Spends time s.options.pollInterval turns answer w' := by
  let begun := w.begin s.options.debug role (.delay duration)
  have hbegun : begun.host = w.host := World.host_begin (fun _ => rfl) _ _ w
  have hasked : begun.marks = begun.marks ++ List.replicate 0 .asked := (List.append_nil _).symm
  rcases hclock.sleep_cases duration begun with
    ⟨w₁, hslept, hmarks, htime⟩ | ⟨w₁, hslept, hmarks, htime, hlimit⟩
  · obtain ⟨rfl, rfl⟩ := Run.ending_eq_of_ok hrun hslept
    rw [hbegun] at htime
    exact World.spends_turn (hmarks.trans hasked) (fun hwait => nomatch hwait)
      (fun _ => htime) nofun
  · obtain ⟨rfl, rfl⟩ := Run.ending_eq_of_error hrun hslept
    rw [hbegun] at htime hlimit
    refine World.spends_turn (hmarks.trans hasked) (fun hwait => nomatch hwait)
      (fun hanswer => absurd rfl hanswer) fun _ => ?_
    exact ⟨duration, 0, rfl, congrArg Duration.nanos htime, htime ▸ hlimit⟩

/-- The turn of an action that opens no location. -/
theorem spends_execute (hclock : s.env.OnSleepClock time) (hkeeps : action.KeepsTime time)
    (hstays : ∀ location, action ≠ .navigate location)
    (hrun : (action.execute s navigate).run (w.begin s.options.debug role action)
      = Run.ending answer w') (hanswer : answer ≠ .error .exhausted) :
    ∃ turns, w.Spends time s.options.pollInterval turns answer w' := by
  have hcall (call : PageCall) : (s.env.doCall call).KeepsTime time := hclock.keepsTime_doCall call
  rw [Action.execute.eq_def] at hrun
  cases action with
  | custom name line body => exact hkeeps.elim
  | navigate location => exact absurd rfl (hstays location)
  | click mode selector =>
    refine World.spends_of_keepsTime ?_ (fun _ => rfl) (fun _ => rfl) id hrun
    cases mode with
    | dispatch => exact (hcall _).bind fun answer => .ofExcept _
    | mouse =>
      exact (hcall _).bind fun answer => (Run.KeepsTime.ofExcept _).bind fun point => hcall _
  | setValue selector value =>
    exact World.spends_of_keepsTime ((hcall _).bind fun answer => .ofExcept _)
      (fun _ => rfl) (fun _ => rfl) id hrun
  | viewport width height =>
    exact World.spends_of_keepsTime (hcall _) (fun _ => rfl) (fun _ => rfl) id hrun
  | screenshot path =>
    exact World.spends_of_keepsTime (hcall _) (fun _ => rfl) (fun _ => rfl) id hrun
  | eval function args receive =>
    refine World.spends_of_keepsTime ((hcall _).bind fun answer => ?_)
      (fun _ => rfl) (fun _ => rfl) id hrun
    cases receive with
    | none => exact .pure ()
    | some receive => exact .aside (hkeeps answer)
  | check assertion =>
    exact World.spends_of_keepsTime ((hcall _).bind fun answer => .ofExcept _)
      (fun _ => rfl) (fun _ => rfl) id hrun
  | refused refusal =>
    exact World.spends_of_keepsTime (.ofExcept (.error refusal.failure))
      (fun _ => rfl) (fun _ => rfl) id hrun
  | delay duration => exact spends_delay hclock hrun
  | waitForSelector selector =>
    obtain ⟨pauses, hmarks, htime, hcut⟩ := hclock.waitUntil_pauses rfl hrun hanswer
    exact World.spends_of_pauses (fun _ => rfl) hmarks htime hcut (fun _ => rfl) fun _ => rfl
  | waitForFunction function args =>
    obtain ⟨pauses, hmarks, htime, hcut⟩ := hclock.waitUntil_pauses rfl hrun hanswer
    exact World.spends_of_pauses (fun _ => rfl) hmarks htime hcut (fun _ => rfl) fun _ => rfl

/-- The turns of the actions that follow a navigation. -/
theorem spends_followUp (hclock : s.env.OnSleepClock time) {actions : List (Action σ)}
    (hkeeps : ∀ action ∈ actions, action.KeepsTime time)
    (hstays : ∀ location, .navigate location ∉ actions)
    (hrun : (s.followUp (fun action => action.execute s navigate) actions).run w
      = Run.ending answer w') (hanswer : answer ≠ .error .exhausted) :
    ∃ turns, w.Spends time s.options.pollInterval turns answer w' := by
  induction actions generalizing w with
  | nil =>
    obtain ⟨rfl, rfl⟩ := Run.ending_eq_of_ok hrun rfl
    exact ⟨[], .nil _⟩
  | cons action rest ih =>
    obtain ⟨hfirst, hrest⟩ := List.forall_mem_cons.mp hkeeps
    have hstays₁ (location : String) : action ≠ .navigate location :=
      fun heq => hstays location (heq ▸ List.mem_cons_self)
    rw [followUp, Run.run_bind_of_ok (s.run_trace .afterOpen action w)] at hrun
    cases h : (action.execute s navigate).run (w.begin s.options.debug .afterOpen action) with
    | ok a w₁ =>
      rw [Run.run_bind_of_ok h] at hrun
      obtain ⟨turns, hturns⟩ := spends_execute hclock hfirst hstays₁
        (Run.ending_of_ok h) (by simp)
      obtain ⟨more, hmore⟩ := ih hrest
        (fun location hmem => hstays location (List.mem_cons_of_mem action hmem)) hrun
      exact ⟨turns ++ more, hturns.append hmore⟩
    | error stop w₁ =>
      obtain ⟨rfl, rfl⟩ := Run.ending_eq_of_error hrun (Run.run_bind_of_error h)
      exact spends_execute hclock hfirst hstays₁ (Run.ending_of_error h) hanswer

variable (hclock : s.env.OnSleepClock time)
  (hhooks : ∀ action ∈ s.afterOpen, action.KeepsTime time)
  (hstays : ∀ location, .navigate location ∉ s.afterOpen)

include hclock hhooks hstays

/-- The turns of a queued action: its own, and if it has opened a location, those of the actions
that follow. -/
theorem spends_executeMain (hkeeps : action.KeepsTime time)
    (hrun : (s.execute action).run (w.begin s.options.debug .main action) = Run.ending answer w')
    (hanswer : answer ≠ .error .exhausted) :
    ∃ turns, w.Spends time s.options.pollInterval turns answer w' := by
  by_cases h : ∃ location, action = .navigate location
  · obtain ⟨location, rfl⟩ := h
    have hvisit := hclock.keepsTime_doCall (.navigate (joinUrl s.options.baseUrl location))
    cases opens_of_run hrun with
    | exhausted _ => exact absurd rfl hanswer
    | @unreached stop w₁ stops =>
      exact World.spends_of_keepsTime hvisit (fun _ => rfl) (fun _ => rfl) id
        (Run.ending_of_error stops)
    | @reached rounds _ w₁ _ visits follows =>
      obtain ⟨turns, hturns⟩ := World.spends_of_keepsTime hvisit (fun _ => rfl) (fun _ => rfl)
        id (Run.ending_of_ok visits)
      obtain ⟨more, hmore⟩ := spends_followUp hclock hhooks hstays follows hanswer
      exact ⟨turns ++ more, hturns.append hmore⟩
  · exact spends_execute hclock hkeeps (fun location heq => h ⟨location, heq⟩) hrun hanswer

/-- The turns of an execution. -/
theorem Executes.spends {executed skipped : List (Action σ)}
    (h : s.Executes w executed skipped answer w')
    (hkeeps : ∀ action ∈ executed, action.KeepsTime time) (hanswer : answer ≠ .error .exhausted) :
    ∃ turns, w.Spends time s.options.pollInterval turns answer w' := by
  induction h with
  | @done w => exact ⟨[], .nil w⟩
  | @next w w₁ w₂ action executed skipped answer succeeds rest ih =>
    obtain ⟨hfirst, hrest⟩ := List.forall_mem_cons.mp hkeeps
    obtain ⟨turns, hturns⟩ := spends_executeMain hclock hhooks hstays hfirst
      (Run.ending_of_ok succeeds) nofun
    obtain ⟨more, hmore⟩ := ih hrest hanswer
    exact ⟨turns ++ more, hturns.append hmore⟩
  | @stopped w w₁ action skipped stop stops =>
    have hkeeps := hkeeps action List.mem_cons_self
    obtain ⟨turns, hturns⟩ := spends_executeMain hclock hhooks hstays hkeeps
      (Run.ending_of_error stops) hanswer
    exact ⟨turns, hturns.afterStop hkeeps.afterLine skipped.length⟩

end Setting

namespace Scene

variable {env : Environment σ} {time : σ → Duration} {scene scene' : Scene σ}
  {answer : Except Stop Unit}

/-- Getting engine and page ready takes no time where starting them takes none. -/
theorem Prepares.keepsTime (hlaunch : ∀ params, Host.KeepsTime time (env.launch params))
    (hcreate : Host.KeepsTime time env.createPage) (h : scene.Prepares env answer scene') :
    time scene'.world.host = time scene.world.host := by
  have hlaunching : time scene.launching.host = time scene.world.host := by rw [host_launching]
  have hengine {w : World σ} (engine : scene.GetsEngine env w) :
      time w.host = time scene.world.host := by
    rcases engine with ⟨-, rfl⟩ | ⟨-, launched⟩
    · rfl
    · exact (World.keepsTime_ask (hlaunch _) (Run.ending_of_ok launched)).1.trans hlaunching
  cases h with
  | closed _ => rfl
  | @unlaunched stop w _ _ stops =>
    exact (World.keepsTime_ask (hlaunch _) (Run.ending_of_error stops)).1.trans hlaunching
  | @unopened stop w w₁ _ engine _ stops =>
    exact (World.keepsTime_ask hcreate (Run.ending_of_error stops)).1.trans (hengine engine)
  | @ready w w₁ _ engine page =>
    rcases page with ⟨-, rfl⟩ | ⟨-, opened⟩
    · exact hengine engine
    · exact (World.keepsTime_ask hcreate (Run.ending_of_ok opened)).1.trans (hengine engine)

end Scene

/-- In a session on a manual clock that only sleeps move, in which all queued and registered actions
are built-in ones and no registered action navigates, a run that comes to an end takes the time of
its turns: of every delay its duration and, for every wait, the pause times the number of its
evaluations without the first one, which is always made; any other action takes no time. If a sleep
would move the clock too far, the run ends with it, and the clock stays where it is. So it is never
turned back.

This counts from where engine and page are ready. Getting them ready executes nothing, and takes no
time if the engine can be launched and its page be created without. -/
theorem run_time (env : Environment σ) (time : σ → Duration) (hclock : env.OnSleepClock time)
    (scene : Scene σ) (budget : Nat)
    (hqueue : ∀ action ∈ scene.session.queue.toList, action.KeepsTime time)
    (hhooks : ∀ action ∈ scene.session.afterOpen.toList, action.KeepsTime time)
    (hstays : ∀ location, .navigate location ∉ scene.session.afterOpen.toList) :
    let step := scene.perform env (.run budget)
    ∃ prepared ready, (Scene.prepare env).run scene = Run.ending prepared ready ∧
      ready.world.marks = scene.world.marks ∧
      ((∀ params, Host.KeepsTime time (env.launch params)) →
        Host.KeepsTime time env.createPage → time ready.world.host = time scene.world.host) ∧
      (∀ stop, prepared = .error stop → step.answer = .error stop ∧ step.after = ready) ∧
      (prepared = .ok () → step.answer ≠ .error .exhausted → ∃ turns,
        ready.world.Spends time scene.session.options.pollInterval turns step.answer
          step.after.world ∧
        time ready.world.host ≤ time step.after.world.host) := by
  intro step
  obtain ⟨prepared, ready, hprepare, prepares⟩ := Scene.prepare_prepares env scene
  have hmarks : ready.world.marks = scene.world.marks :=
    prepares.told (fun _ => rfl) (fun _ _ => rfl) fun _ => rfl
  refine ⟨prepared, ready, hprepare, hmarks, fun hlaunch hcreate =>
    prepares.keepsTime hlaunch hcreate, fun stop hstop => ?_, fun hready hanswer => ?_⟩
  · subst hstop
    have hstep : step = ⟨.run budget, scene, .error stop, ready⟩ :=
      Scene.perform_of_ending env (Scene.run_of_unprepared env budget hprepare)
    exact ⟨by rw [hstep], by rw [hstep]⟩
  · subst hready
    obtain ⟨executed, skipped, answer, w, hqueued, hrun, executes⟩ :=
      (Scene.setting env scene.session budget).executeAll_executes scene.session.queue.toList
        ready.world
    have hstep : step = _ := Scene.perform_run_of_prepared hprepare hrun
    rw [hstep] at hanswer ⊢
    obtain ⟨turns, hturns⟩ := executes.spends hclock hhooks hstays
      (fun action hmem => hqueue action (hqueued ▸ List.mem_append_left skipped hmem)) hanswer
    exact ⟨turns, hturns, hturns.time_le⟩

theorem Environment.obliging_onSleepClock : Environment.obliging.OnSleepClock id where
  toOnManualClock := Environment.obliging_onManualClock
  page call := by
    cases call <;> exact ⟨fun hrun => by cases hrun; rfl, fun hrun => nomatch hrun⟩
  refused d before after hrun := by
    cases h : before.host.add? d with
    | some later =>
      simp only [Environment.obliging, EStateM.run, h] at hrun
      cases hrun
    | none =>
      simp only [Environment.obliging, EStateM.run, h] at hrun
      cases hrun
      rfl

/-- A session in which a delay follows every navigation, and which waits in vain for an element. -/
def Scene.expectant : Scene Duration where
  session := {
    options := { timeout := .ofMillis 100, pollInterval := .ofMillis 50 }
    queue := ⟨[.navigate "/", .eval "() => 1" [] (some fun _ => pure ()),
      .delay (.ofMillis 30), .waitForSelector "li", .screenshot "list.png"]⟩
    afterOpen := ⟨[.viewport 800 600, .delay (.ofMillis 5)]⟩ }
  world := { host := .zero }

/-- The wait gives up after four evaluations, 185 milliseconds from the start. -/
theorem run_time_expectant :
    let session := Scene.expectant.session
    let step := Scene.expectant.perform .obliging (.run 9)
    Environment.obliging.OnSleepClock id ∧
    (∀ action ∈ session.queue.toList, action.KeepsTime id) ∧
    (∀ action ∈ session.afterOpen.toList, action.KeepsTime id) ∧
    (∀ location, .navigate location ∉ session.afterOpen.toList) ∧
    step.answer = .error (.failed (.timeout "selector 'li'" (.ofMillis 100))) ∧
    step.after.world.host.nanos = 185000000 ∧
    ∃ turns : List (Turn Duration), step.after.world.marks = turns.flatMap Turn.marks ∧
      (turns.map (Turn.nanos session.options.pollInterval)).sum = 185000000 := by
  have hqueue : ∀ action ∈ Scene.expectant.session.queue.toList, action.KeepsTime id := by
    simp only [Scene.expectant, List.forall_mem_cons]
    exact ⟨trivial, fun _ _ => rfl, trivial, trivial, trivial,
      fun _ hmem => absurd hmem List.not_mem_nil⟩
  have hhooks : ∀ action ∈ Scene.expectant.session.afterOpen.toList, action.KeepsTime id := by
    simp only [Scene.expectant, List.forall_mem_cons]
    exact ⟨trivial, trivial, fun _ hmem => absurd hmem List.not_mem_nil⟩
  have hstays (location : String) :
      .navigate location ∉ Scene.expectant.session.afterOpen.toList := by
    simp [Scene.expectant]
  have hanswer : (Scene.expectant.perform .obliging (.run 9)).answer
      = .error (.failed (.timeout "selector 'li'" (.ofMillis 100))) := by decide +kernel
  have hnanos : (Scene.expectant.perform .obliging (.run 9)).after.world.host.nanos
      = 185000000 := by decide +kernel
  obtain ⟨prepared, ready, hprepare, hmarks, hstart, -, hturns⟩ := run_time .obliging id
    Environment.obliging_onSleepClock .expectant 9 hqueue hhooks hstays
  obtain ⟨rfl, -⟩ := Run.ending_eq_of_ok hprepare rfl
  obtain ⟨turns, hspends, -⟩ := hturns rfl (by rw [hanswer]; nofun)
  have hready : ready.world.host = .zero :=
    hstart (fun _ => ⟨fun hrun => by cases hrun; rfl, fun hrun => nomatch hrun⟩)
      ⟨fun hrun => by cases hrun; rfl, fun hrun => nomatch hrun⟩
  have hzero : ready.world.host.nanos = 0 := congrArg Duration.nanos hready
  have htime := hspends.whole (by rw [hanswer]; nofun)
  refine ⟨Environment.obliging_onSleepClock, hqueue, hhooks, hstays, hanswer, hnanos, turns, ?_, ?_⟩
  · rw [hspends.marks, hmarks]
    rfl
  · rw [id_eq, id_eq, hzero, Nat.zero_add] at htime
    exact htime.symm.trans hnanos

/-- A clock that shows the longest duration cannot be moved. -/
example :
    let scene : Scene Duration :=
      ⟨{ options := {}, queue := ⟨[.delay .max, .delay (.ofMillis 1)]⟩ }, { host := .zero }⟩
    let step := scene.perform .obliging (.run 1)
    step.answer = .error .clockOverflow ∧ step.after.world.host = .max := by
  decide +kernel

end PagePilot
