import PagePilot.Host
import PagePilot.Options.Basic
import PagePilot.Page.Answer
import PagePilot.Page.Call
import PagePilot.Page.Check

/-!
# Actions

The steps that a session can be asked to take, as data. Nothing happens when an action is made; it
has its effect when a run executes it.

## Main definitions

- `ElementVerb` - what can be done with the element that a scope has selected
- `Refusal` - why a verb could not become an action
- `Action` - the steps
- `Routine` - the body of a custom action: a program over the page, the clock and the host
- `Line` - the line of a custom action
- `Action.name`, `Action.describe`, `Action.tell` - a step in one word and in one line

## Design notes

A custom action may do anything that the built-in ones can, may perform other actions, may look at
failures and go on, may change the part of the host that it shares with its creator, and may write
to the log. That is all by which it reaches the journal of a run. Its line may be code as well,
which is run each time the line is asked for.
-/

namespace PagePilot

/-- What can be done with the element that a scope has selected. -/
inductive ElementVerb
  | click (mode : ClickMode)
  | setValue (value : String)
  | waitForSelector
  | test (expected : Bool) (check : ElementCheck)

/-- The word for a click. -/
def ClickMode.name : ClickMode → String
  | .dispatch => "click"
  | .mouse => "mouse_click"

/-- The word for a verb. -/
def ElementVerb.name : ElementVerb → String
  | .click mode => mode.name
  | .setValue _ => "set_value"
  | .waitForSelector => "wait_for_selector"
  | .test _ check => check.name

/-- Why a verb could not become the action that was asked for. The refusal takes the place of the
action and fails when its turn comes. -/
inductive Refusal
  /-- The verb needs an element and none is selected. -/
  | nothingSelected (verb : ElementVerb)
  /-- A page cannot be without width or height. -/
  | emptyViewport (width height : UInt32)
  /-- There is no function to wait for. -/
  | blankFunction

namespace Refusal

/-- The word for the refused verb. -/
def name : Refusal → String
  | .nothingSelected verb => verb.name
  | .emptyViewport _ _ => "viewport"
  | .blankFunction => "wait_for_function"

/-- What a refused verb fails with. -/
def failure : Refusal → Failure
  | .nothingSelected _ => .noSelection
  | .emptyViewport width height =>
    .invalidArgument
      ("viewport must not be empty, got " ++ toString width ++ "x" ++ toString height)
  | .blankFunction => .invalidArgument "wait accepts a duration, a selector or a script"

end Refusal

/-- The line of a custom action. -/
inductive Line (σ : Type)
  /-- It is always the same. -/
  | text (text : String)
  /-- It is what code gives when the line is asked for. -/
  | code (tell : Aside σ String)

instance : Coe String (Line σ) := ⟨.text⟩

mutual

/-- A step of a session over a host of type `σ`. -/
inductive Action (σ : Type)
  | click (mode : ClickMode) (selector : String)
  | setValue (selector value : String)
  /-- Go to a location, then do what was registered to be done after every navigation. -/
  | navigate (location : String)
  | viewport (width height : UInt32)
  | screenshot (path : String)
  | delay (duration : Duration)
  | waitForSelector (selector : String)
  | waitForFunction (function : String) (args : List Json)
  /-- Evaluate a page function and hand its result over, if someone wants it. -/
  | eval (function : String) (args : List Json) (receive : Option (Json → Aside σ Unit))
  | check (assertion : Check)
  | refused (refusal : Refusal)
  /-- A step of one's own, with its word, its line in the log and what it does. -/
  | custom (name : String) (line : Line σ) (body : Routine σ)

/-- The body of a custom action. -/
inductive Routine (σ : Type)
  | done
  | fail (failure : Failure)
  /-- Do something on the page. -/
  | call (call : PageCall) (next : Except Failure call.Answer → Routine σ)
  /-- Perform another action, without a line in the log. -/
  | perform (action : Action σ) (next : Except Failure Unit → Routine σ)
  /-- Look at the options of the session. -/
  | options (next : SessionOptions → Routine σ)
  /-- Look at the clock. -/
  | now (next : Duration → Routine σ)
  | sleep (duration : Duration) (next : Routine σ)
  /-- Look at the host. -/
  | observe (next : σ → Routine σ)
  | update (change : σ → σ) (next : Routine σ)
  /-- Write a line to the log. -/
  | log (record : LogRecord) (next : Routine σ)

end

/-- What receives a result may do no more than change the host. -/
instance : Coe (Option (Json → σ → σ)) (Option (Json → Aside σ Unit)) :=
  ⟨Option.map fun receive answer => Aside.change (receive answer)⟩

instance : Inhabited (Routine σ) := ⟨.done⟩

instance : Inhabited (Action σ) := ⟨.custom "" "" .done⟩

/-- Goes on with an answer; a failure ends the routine. -/
def Routine.orFail (next : α → Routine σ) : Except Failure α → Routine σ
  | .ok answer => next answer
  | .error failure => .fail failure

namespace Action

variable {σ : Type}

/-- A custom action that goes by its word alone. -/
def named (name : String) (body : Routine σ) : Action σ := .custom name name body

/-- A custom action without a name of its own. -/
def ofRoutine (body : Routine σ) : Action σ := named "custom" body

/-- The word for an action. -/
def name : Action σ → String
  | .click mode _ => mode.name
  | .setValue _ _ => "set_value"
  | .navigate _ => "open"
  | .viewport _ _ => "viewport"
  | .screenshot _ => "screenshot"
  | .delay _ => "delay"
  | .waitForSelector _ => "wait_for_selector"
  | .waitForFunction _ _ => "wait_for_function"
  | .eval _ _ _ => "eval"
  | .check assertion => "test." ++ assertion.name
  | .refused refusal => refusal.name
  | .custom name _ _ => name

/-- An action in one line: its word and what it is about. A line that is code is not known before
it is run; the word of the action stands for it. -/
def describe : Action σ → String
  | .click mode selector => mode.name ++ "(" ++ selector ++ ")"
  | .setValue selector value => "set_value(" ++ selector ++ ", " ++ Text.quoted value ++ ")"
  | .navigate location => "open(" ++ location ++ ")"
  | .viewport width height => "viewport(" ++ toString width ++ "x" ++ toString height ++ ")"
  | .screenshot path => "screenshot(" ++ path ++ ")"
  | .delay duration => "delay(" ++ toString duration.millis ++ "ms)"
  | .waitForSelector selector => "wait_for_selector(" ++ selector ++ ")"
  | .waitForFunction _ _ => "wait_for_function"
  | .eval _ args _ => "eval(<fn>, " ++ (Json.arr args).text ++ ")"
  | .check assertion => assertion.describe
  | .refused refusal => refusal.name
  | .custom _ (.text line) _ => line
  | .custom name (.code _) _ => name

/-- Asks an action for its line. -/
def tell : Action σ → Aside σ String
  | .custom _ (.code tell) _ => tell
  | action => pure action.describe

end Action

/-- The action that does what a verb says with the elements that match a selector. -/
def ElementVerb.action (selector : String) : ElementVerb → Action σ
  | .click mode => .click mode selector
  | .setValue value => .setValue selector value
  | .waitForSelector => .waitForSelector selector
  | .test expected check => .check ⟨expected, .element selector check⟩

end PagePilot
