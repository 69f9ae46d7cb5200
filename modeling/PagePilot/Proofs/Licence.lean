import PagePilot.Action.Execution

/-!
# What actions are made of

Whatever an action does, it does by a few operations on its world, put together in sequence and by
looking at failures. A relation between runs that respects those operations and those ways of
putting them together therefore relates every action to itself, in any two settings that answer
its navigations by related runs. This is the one induction over actions and routines; what an
action leaves behind, or what it does not depend on, follows by choosing the relation.

## Main definitions

- `Aside.Logs` - what code logs is of a kind
- `Licence` - what an action may do by itself
- `Action.Within`, `Routine.Within` - the action never does more than a licence allows
- `Licence.Respects` - a relation between runs respects what the licence allows

## Main statements

- `Action.execute_related` - an action within the licence is related to itself
-/

namespace PagePilot

variable {σ α β : Type}

/-- What the code logs is of a kind, whatever the outside is like. -/
def Aside.Logs (P : LogRecord → Prop) (code : Aside σ α) : Prop :=
  ∀ host, ∀ record ∈ (code.run { host := host }).2.records, P record

/-- What an action may do by itself, whatever it is answered. -/
structure Licence where
  /-- The calls to the page that it may make. -/
  calls : PageCall → Prop := fun _ => True
  /-- The locations that it may open, by which the registered actions follow. -/
  opens : String → Prop := fun _ => True
  /-- The lines that it may write to the log. -/
  logs : LogRecord → Prop := fun _ => True

namespace Licence

/-- Everything is allowed. -/
def all : Licence := {}

/-- Everything is allowed but opening a location. -/
def staying : Licence where
  opens _ := False

/-- Everything is allowed, but of lines of the log only those of a kind. -/
def logging (P : LogRecord → Prop) : Licence where
  logs := P

end Licence

mutual

/-- The action never does more than the licence allows. -/
def Action.Within (L : Licence) : Action σ → Prop
  | .click .dispatch selector => L.calls (.evaluate PageFunction.click.source [.str selector])
  | .click .mouse selector =>
    L.calls (.evaluate PageFunction.clickTarget.source [.str selector])
      ∧ ∀ x y, L.calls (.clickAt x y)
  | .setValue selector value =>
    L.calls (.evaluate PageFunction.setValue.source [.str selector, .str value])
  | .navigate location => L.opens location
  | .viewport width height => L.calls (.setViewport width height)
  | .screenshot path => L.calls (.render path)
  | .delay _ => True
  | .waitForSelector selector => L.calls (.evaluate PageFunction.count.source [.str selector])
  | .waitForFunction function args => L.calls (.evaluate function args)
  | .eval function args receive =>
    L.calls (.evaluate function args) ∧ ∀ code ∈ receive, ∀ answer, (code answer).Logs L.logs
  | .check assertion => L.calls (.evaluate assertion.question.1 assertion.question.2)
  | .refused _ => True
  | .custom _ _ body => body.Within L

/-- The routine never does more than the licence allows, whatever it is answered. -/
def Routine.Within (L : Licence) : Routine σ → Prop
  | .done => True
  | .fail _ => True
  | .call call next => L.calls call ∧ ∀ answer, (next answer).Within L
  | .perform action next => action.Within L ∧ ∀ result, (next result).Within L
  | .options next => ∀ options, (next options).Within L
  | .now next => ∀ time, (next time).Within L
  | .sleep _ next => next.Within L
  | .observe next => ∀ host, (next host).Within L
  | .update _ next => next.Within L
  | .log record next => L.logs record ∧ next.Within L

end

mutual

theorem Action.within_all : ∀ action : Action σ, action.Within Licence.all
  | .click .dispatch _ => trivial
  | .click .mouse _ => ⟨trivial, fun _ _ => trivial⟩
  | .setValue _ _ | .navigate _ | .viewport _ _ | .screenshot _ | .delay _ => trivial
  | .waitForSelector _ | .waitForFunction _ _ | .check _ | .refused _ => trivial
  | .eval _ _ _ => ⟨trivial, fun _ _ _ _ _ _ => trivial⟩
  | .custom _ _ body => body.within_all

theorem Routine.within_all : ∀ routine : Routine σ, routine.Within Licence.all
  | .done | .fail _ => trivial
  | .call _ next => ⟨trivial, fun answer => (next answer).within_all⟩
  | .perform action next => ⟨action.within_all, fun result => (next result).within_all⟩
  | .options next => fun options => (next options).within_all
  | .now next => fun time => (next time).within_all
  | .sleep _ next => next.within_all
  | .observe next => fun host => (next host).within_all
  | .update _ next => next.within_all
  | .log _ next => ⟨trivial, next.within_all⟩

end

/-- Only a navigation opens a location, and a custom action may. -/
theorem Action.within_staying {action : Action σ}
    (hnavigate : ∀ location, action ≠ .navigate location)
    (hcustom : ∀ name line body, action ≠ .custom name line body) :
    action.Within Licence.staying := by
  cases action with
  | navigate location => exact absurd rfl (hnavigate location)
  | custom name line body => exact absurd rfl (hcustom name line body)
  | click mode selector =>
    cases mode with
    | dispatch => trivial
    | mouse => exact ⟨trivial, fun _ _ => trivial⟩
  | eval function args receive => exact ⟨trivial, fun _ _ _ _ _ _ => trivial⟩
  | _ => trivial

/-- A change of the outside is code that does nothing else. -/
theorem World.update_eq_aside (f : σ → σ) : World.update f = World.aside (Aside.change f) := by
  funext w
  have haside : World.aside (Aside.change f) w = .ok () ⟨f w.host, w.journal ++ #[]⟩ := rfl
  rw [haside, Array.append_empty]
  rfl

/-- The relation holds between every operation that the licence allows and itself, and passes from
runs to what is put together from them. -/
structure Licence.Respects (L : Licence) (env : Environment σ)
    (R : (α : Type) → Run (World σ) α → Run (World σ) α → Prop) : Prop where
  pure {α : Type} (a : α) : R α (pure a) (pure a)
  fail {α : Type} (failure : Failure) : R α (Run.fail failure) (Run.fail failure)
  exhausted : R Unit (throw .exhausted) (throw .exhausted)
  bind {α β : Type} {run run' : Run (World σ) α} {next next' : α → Run (World σ) β} :
    R α run run' → (∀ a, R β (next a) (next' a)) → R β (run >>= next) (run' >>= next')
  attempt {α : Type} {run run' : Run (World σ) α} :
    R α run run' → R (Except Failure α) run.attempt run'.attempt
  call (call : PageCall) : L.calls call → R call.Answer (env.doCall call) (env.doCall call)
  read : R Duration env.clock.read env.clock.read
  sleep (d : Duration) : R Unit (env.clock.sleep d) (env.clock.sleep d)
  observe : R σ World.observe World.observe
  aside (code : Aside σ Unit) : code.Logs L.logs → R Unit (World.aside code) (World.aside code)

namespace Licence.Respects

variable {L : Licence} {env : Environment σ}
  {R : (α : Type) → Run (World σ) α → Run (World σ) α → Prop} (h : L.Respects env R)

include h

theorem ofExcept (verdict : Except Failure α) :
    R α (Run.ofExcept verdict) (Run.ofExcept verdict) := by
  cases verdict with
  | ok a => exact h.pure a
  | error failure => exact h.fail failure

theorem map {run run' : Run (World σ) α} (f : α → β) (hrun : R α run run') :
    R β (f <$> run) (f <$> run') := by
  rw [map_eq_pure_bind, map_eq_pure_bind]
  exact h.bind hrun fun a => h.pure (f a)

theorem pollUntil (config : WaitConfig) (condition : String) {check check' : Run (World σ) Bool}
    (hcheck : R Bool check check') (budget : Nat) :
    R Unit (PagePilot.pollUntil env.clock config condition check budget)
      (PagePilot.pollUntil env.clock config condition check' budget) := by
  refine h.bind h.read fun start => ?_
  -- Only the loop behind the first reading of the clock uses up the budget.
  induction budget with
  | zero => exact h.exhausted
  | succ budget ih =>
    refine h.bind hcheck fun holds => ?_
    cases holds with
    | true => exact h.pure ()
    | false =>
      refine h.bind h.read fun now => ?_
      by_cases late : config.limit < now.since start
      · simp only [if_pos late]
        exact h.fail _
      · simp only [if_neg late]
        exact h.bind (h.sleep config.interval) fun _ => ih

end Licence.Respects

section Related

variable {L : Licence} {R : (α : Type) → Run (World σ) α → Run (World σ) α → Prop}
  {s s' : Setting σ} {navigate navigate' : String → Run (World σ) Unit}

mutual

/-- Settings that agree in all but the registered actions, and answer the navigations of an action
by related runs, execute it by related runs. -/
theorem Action.execute_related (h : L.Respects s.env R) (henv : s'.env = s.env)
    (hoptions : s'.options = s.options) (hbudget : s'.budget = s.budget)
    (hnavigate : ∀ location, L.opens location → R Unit (navigate location) (navigate' location)) :
    ∀ action : Action σ, action.Within L →
      R Unit (action.execute s navigate) (action.execute s' navigate')
  | .click .dispatch selector, within => by
    rw [Action.execute, Action.execute, Setting.click, Setting.click, Setting.evaluate,
      Setting.evaluate, henv]
    exact h.bind (h.call _ within) fun answer => h.ofExcept _
  | .click .mouse selector, within => by
    rw [Action.execute, Action.execute, Setting.click, Setting.click, Setting.evaluate,
      Setting.evaluate, henv]
    exact h.bind (h.call _ within.1) fun answer =>
      h.bind (h.ofExcept _) fun point => h.call _ (within.2 point.1 point.2)
  | .setValue selector value, within => by
    rw [Action.execute, Action.execute, Setting.evaluate, Setting.evaluate, henv]
    exact h.bind (h.call _ within) fun answer => h.ofExcept _
  | .navigate location, within => by
    rw [Action.execute, Action.execute]
    exact hnavigate location within
  | .viewport width height, within => by
    rw [Action.execute, Action.execute, henv]
    exact h.call _ within
  | .screenshot path, within => by
    rw [Action.execute, Action.execute, henv]
    exact h.call _ within
  | .delay duration, _ => by
    rw [Action.execute, Action.execute, henv]
    exact h.sleep duration
  | .waitForSelector selector, within => by
    rw [Action.execute, Action.execute, Setting.waitUntil, Setting.waitUntil, Setting.evaluate,
      Setting.evaluate, henv, hoptions, hbudget]
    exact h.pollUntil _ _ (h.map anyMatch (h.call _ within)) _
  | .waitForFunction function args, within => by
    rw [Action.execute, Action.execute, Setting.waitUntil, Setting.waitUntil, Setting.evaluate,
      Setting.evaluate, henv, hoptions, hbudget]
    exact h.pollUntil _ _ (h.map Json.isTruthy (h.call _ within)) _
  | .eval function args receive, within => by
    rw [Action.execute, Action.execute, Setting.evaluate, Setting.evaluate, henv]
    refine h.bind (h.call _ within.1) fun answer => ?_
    cases receive with
    | none => exact h.pure ()
    | some receive => exact h.aside (receive answer) (within.2 receive rfl answer)
  | .check assertion, within => by
    rw [Action.execute, Action.execute, Setting.evaluate, Setting.evaluate, henv]
    exact h.bind (h.call _ within) fun answer => h.ofExcept _
  | .refused refusal, _ => by
    rw [Action.execute, Action.execute]
    exact h.fail _
  | .custom _ _ body, within => by
    rw [Action.execute, Action.execute]
    exact body.execute_related h henv hoptions hbudget hnavigate within

theorem Routine.execute_related (h : L.Respects s.env R) (henv : s'.env = s.env)
    (hoptions : s'.options = s.options) (hbudget : s'.budget = s.budget)
    (hnavigate : ∀ location, L.opens location → R Unit (navigate location) (navigate' location)) :
    ∀ routine : Routine σ, routine.Within L →
      R Unit (routine.execute s navigate) (routine.execute s' navigate')
  | .done, _ => by
    rw [Routine.execute, Routine.execute]
    exact h.pure ()
  | .fail failure, _ => by
    rw [Routine.execute, Routine.execute]
    exact h.fail failure
  | .call call next, within => by
    rw [Routine.execute, Routine.execute, henv]
    exact h.bind (h.attempt (h.call call within.1)) fun answer =>
      (next answer).execute_related h henv hoptions hbudget hnavigate (within.2 answer)
  | .perform action next, within => by
    rw [Routine.execute, Routine.execute]
    exact h.bind
      (h.attempt (action.execute_related h henv hoptions hbudget hnavigate within.1)) fun result =>
      (next result).execute_related h henv hoptions hbudget hnavigate (within.2 result)
  | .options next, within => by
    rw [Routine.execute, Routine.execute, hoptions]
    exact (next s.options).execute_related h henv hoptions hbudget hnavigate (within s.options)
  | .now next, within => by
    rw [Routine.execute, Routine.execute, henv]
    exact h.bind h.read fun time =>
      (next time).execute_related h henv hoptions hbudget hnavigate (within time)
  | .sleep duration next, within => by
    rw [Routine.execute, Routine.execute, henv]
    exact h.bind (h.sleep duration) fun _ =>
      next.execute_related h henv hoptions hbudget hnavigate within
  | .observe next, within => by
    rw [Routine.execute, Routine.execute]
    exact h.bind h.observe fun host =>
      (next host).execute_related h henv hoptions hbudget hnavigate (within host)
  | .update change next, within => by
    rw [Routine.execute, Routine.execute]
    refine h.bind ?_ fun _ => next.execute_related h henv hoptions hbudget hnavigate within
    rw [World.update_eq_aside]
    exact h.aside (Aside.change change) fun _ _ hrecord => absurd hrecord List.not_mem_nil
  | .log record next, within => by
    rw [Routine.execute, Routine.execute]
    refine h.bind (h.aside (Aside.log record) fun _ line hline => ?_) fun _ =>
      next.execute_related h henv hoptions hbudget hnavigate within.2
    obtain rfl := List.mem_singleton.mp hline
    exact within.1

end

end Related

end PagePilot
