import PagePilot.World

/-!
# Executing actions

What each action does to its environment.

## Main definitions

- `Setting` - where an action is executed: the environment, the options and the granted rounds
- `Setting.evaluate`, `Setting.waitUntil` - asking the page once, and until it agrees
- `Action.execute`, `Routine.execute` - one action
- `Setting.navigate` - a navigation with the actions that follow it
- `Setting.execute` - one action, its navigations included
- `Setting.executeAll` - a list of actions, up to the first that fails

## Design notes

An action that navigates lets the registered actions follow, which may navigate again. What a
navigation means is therefore passed to `Action.execute`, and `Setting.navigate` ties the knot for
as many nested navigations as rounds have been granted. A navigation beyond them stops the run as
exhausted; it is no failure and no custom action can catch it.
-/

namespace PagePilot

/-- Where actions are executed. -/
structure Setting (σ : Type) where
  env : Environment σ
  options : SessionOptions
  /-- Performed after every successful navigation. -/
  afterOpen : List (Action σ)
  /-- How many checks a wait may make, and how deep navigations may be nested. -/
  budget : Nat

namespace Setting

variable {σ : Type} (s : Setting σ)

/-- Evaluates a function on the page. -/
def evaluate (function : String) (args : List Json) : Run (World σ) Json :=
  s.env.doCall (.evaluate function args)

/-- Evaluates a function on the page until it gives a satisfactory answer. -/
def waitUntil (condition function : String) (args : List Json) (holds : Json → Bool) :
    Run (World σ) Unit :=
  pollUntil s.env.clock s.options.waitConfig condition (holds <$> s.evaluate function args) s.budget

/-- Clicks the first element that matches. -/
def click (selector : String) : ClickMode → Run (World σ) Unit
  | .dispatch => do
    Run.ofExcept (clickVerdict selector (← s.evaluate PageFunction.click.source [.str selector]))
  | .mouse => do
    let answer ← s.evaluate PageFunction.clickTarget.source [.str selector]
    let (x, y) ← Run.ofExcept (clickPoint selector answer)
    s.env.doCall (.clickAt x y)

/-- Notes and logs an action that is about to be executed. -/
def trace (role : Role) (action : Action σ) : Run (World σ) Unit :=
  modify (World.begin s.options.debug role action)

end Setting

mutual

/-- Executes one action; `navigate` goes to a location. -/
def Action.execute (s : Setting σ) (navigate : String → Run (World σ) Unit) :
    Action σ → Run (World σ) Unit
  | .click mode selector => s.click selector mode
  | .setValue selector value => do
    let answer ← s.evaluate PageFunction.setValue.source [.str selector, .str value]
    Run.ofExcept (setValueVerdict selector answer)
  | .navigate location => navigate location
  | .viewport width height => s.env.doCall (.setViewport width height)
  | .screenshot path => s.env.doCall (.render path)
  | .delay duration => s.env.clock.sleep duration
  | .waitForSelector selector =>
    s.waitUntil ("selector '" ++ selector ++ "'") PageFunction.count.source [.str selector] anyMatch
  | .waitForFunction function args =>
    s.waitUntil "page function to return a truthy value" function args Json.isTruthy
  | .eval function args receive => do
    let answer ← s.evaluate function args
    match receive with
    | some receive => World.aside (receive answer)
    | none => pure ()
  | .check assertion => do
    let answer ← s.evaluate assertion.question.1 assertion.question.2
    Run.ofExcept (assertion.verdict answer)
  | .refused refusal => Run.fail refusal.failure
  | .custom _ _ body => body.execute s navigate

/-- Executes the body of a custom action. -/
def Routine.execute (s : Setting σ) (navigate : String → Run (World σ) Unit) :
    Routine σ → Run (World σ) Unit
  | .done => pure ()
  | .fail failure => Run.fail failure
  | .call call next => do
    let answer ← Run.attempt (s.env.doCall call)
    (next answer).execute s navigate
  | .perform action next => do
    let result ← Run.attempt (action.execute s navigate)
    (next result).execute s navigate
  | .options next => (next s.options).execute s navigate
  | .now next => do
    let time ← s.env.clock.read
    (next time).execute s navigate
  | .sleep duration next => do
    s.env.clock.sleep duration
    next.execute s navigate
  | .observe next => do
    let host ← World.observe
    (next host).execute s navigate
  | .update change next => do
    World.update change
    next.execute s navigate
  | .log record next => do
    World.aside (Aside.log record)
    next.execute s navigate

end

/-- The URL of a location: the location behind the base URL, as it is. -/
def joinUrl (baseUrl location : String) : String := baseUrl ++ location

namespace Setting

variable {σ : Type} (s : Setting σ)

/-- Executes actions one after the other, each with a line in the log, up to the first that
fails. -/
def followUp (execute : Action σ → Run (World σ) Unit) : List (Action σ) → Run (World σ) Unit
  | [] => pure ()
  | action :: rest => do
    s.trace .afterOpen action
    execute action
    followUp execute rest

/-- Goes to a location and executes the actions that follow every navigation. At most `rounds`
navigations may be nested in each other. -/
def navigate : (rounds : Nat) → String → Run (World σ) Unit
  | 0, _ => throw .exhausted
  | rounds + 1, location => do
    s.env.doCall (.navigate (joinUrl s.options.baseUrl location))
    s.followUp (fun action => action.execute s (navigate rounds)) s.afterOpen

/-- Executes one action. -/
def execute (action : Action σ) : Run (World σ) Unit :=
  action.execute s (s.navigate s.budget)

/-- The line that tells which action failed, by its own line, how many were skipped and why. -/
def failureLine (line : String) (skipped : Nat) (failure : Failure) : String :=
  line ++ " failed, skipping " ++ toString skipped ++ " queued action(s): " ++ failure.message

/-- Executes a queued action. A failure is logged together with the number of actions that are
skipped because of it. -/
def executeMain (action : Action σ) (skipped : Nat) : Run (World σ) Unit :=
  Run.onFailure (s.execute action) fun failure =>
    World.logLine s.options.debug action fun line => failureLine line skipped failure

/-- Executes actions one after the other, up to the first that fails; what is behind it is
skipped. -/
def executeAll : List (Action σ) → Run (World σ) Unit
  | [] => pure ()
  | action :: rest => do
    s.trace .main action
    s.executeMain action rest.length
    executeAll rest

theorem run_trace (role : Role) (action : Action σ) (w : World σ) :
    (s.trace role action).run w = .ok () (w.begin s.options.debug role action) := rfl

/-- After an action that succeeds come the others. -/
theorem executeAll_cons_of_ok {action : Action σ} {rest : List (Action σ)} {w w₁ : World σ}
    (h : (s.execute action).run (w.begin s.options.debug .main action) = .ok () w₁) :
    (s.executeAll (action :: rest)).run w = (s.executeAll rest).run w₁ := by
  rw [executeAll, Run.run_bind_of_ok (s.run_trace .main action w), executeMain,
    Run.run_bind_of_ok (Run.run_onFailure_of_ok h)]

/-- After an action that fails comes nothing. -/
theorem executeAll_cons_of_failed {action : Action σ} {rest : List (Action σ)} {w w₁ : World σ}
    {failure : Failure}
    (h : (s.execute action).run (w.begin s.options.debug .main action)
      = .error (.failed failure) w₁) :
    (s.executeAll (action :: rest)).run w = .error (.failed failure)
      (w₁.logLine s.options.debug action fun line => failureLine line rest.length failure) := by
  rw [executeAll, Run.run_bind_of_ok (s.run_trace .main action w), executeMain,
    Run.run_bind_of_error (Run.run_onFailure_of_failed h)]

end Setting

end PagePilot
