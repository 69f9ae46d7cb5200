import PagePilot.Action.Execution
import PagePilot.Queue

/-!
# Sessions

A session has one engine with one page, both started by its first run, a queue of actions for the
next run, and the actions that follow every navigation.

## Main definitions

- `Session` - the state of a session
- `Scene` - a session and the world in which it takes place
- `Scene.enqueue`, `Scene.afterOpen`, `Scene.run`, `Scene.exit` - what can be done with it
- `Session.report`, `Session.tell` - a session in one line

## Design notes

Engine and page are parts of the host; the session only knows whether it has got them. That there
is no page without an engine is left to what the operations do, and a run refuses to go on where
it is not so.
-/

namespace PagePilot

/-- The state of a session over a host of type `σ`. -/
structure Session (σ : Type) where
  options : SessionOptions
  /-- The engine has been started and not been shut down since. -/
  hasEngine : Bool := false
  /-- The page has been opened and not been given up since. -/
  hasPage : Bool := false
  /-- The session has been exited. -/
  isClosed : Bool := false
  /-- The actions for the next run. -/
  queue : Queue σ := {}
  /-- The actions that follow every navigation. -/
  afterOpen : Queue σ := {}

namespace Session

variable {σ : Type} (s : Session σ)

/-- The number of actions for the next run. -/
def pending : Nat := s.queue.size

/-- The session in one line, in which its queues have these lines. -/
def line (queue afterOpen : String) : String :=
  "Session " ++ Text.fields
    [("options", s.options.report), ("engine", toString s.hasEngine),
     ("page", toString s.hasPage), ("queue", cell queue), ("after_open", cell afterOpen),
     ("closed", toString s.isClosed)]
where
  /-- A queue in the line of its session. -/
  cell (queue : String) : String := "RefCell " ++ Text.fields [("value", queue)]

/-- The session in one line. -/
def report : String := s.line s.queue.report s.afterOpen.report

/-- Asks the actions of the session for their lines, for the line of the session. -/
def tell : Aside σ String := do
  let queue ← s.queue.tell
  let afterOpen ← s.afterOpen.tell
  return s.line queue afterOpen

variable {s}

/-- If all actions tell the lines that are known, the session does. -/
theorem tell_eq_report
    (hqueue : ∀ action ∈ s.queue.toList, action.tell = pure action.describe)
    (hhooks : ∀ action ∈ s.afterOpen.toList, action.tell = pure action.describe) :
    s.tell = pure s.report := by
  rw [tell, Queue.tell_eq_report hqueue, Queue.tell_eq_report hhooks]
  rfl

end Session

/-- A session and the world in which it takes place. -/
structure Scene (σ : Type) where
  session : Session σ
  world : World σ

namespace Scene

variable {σ : Type}

/-- Runs something in the world of the session. -/
def inWorld (run : Run (World σ) α) : Run (Scene σ) α := fun scene =>
  match run.run scene.world with
  | .ok a world => .ok a { scene with world := world }
  | .error stop world => .error stop { scene with world := world }

/-- Changes the session. -/
def change (f : Session σ → Session σ) : Run (Scene σ) Unit :=
  modify fun scene => { scene with session := f scene.session }

/-- Adds actions to the queue. -/
def enqueue (actions : List (Action σ)) : Run (Scene σ) Unit :=
  change fun s => { s with queue := s.queue.append actions }

/-- Registers an action to follow every navigation. -/
def afterOpen (action : Action σ) : Run (Scene σ) Unit :=
  change fun s => { s with afterOpen := s.afterOpen.push action }

variable (env : Environment σ)

/-- The line that tells with which flags the engine is started. -/
def launchLine (params : LaunchParams) : String := "launching engine with " ++ params.flagsReport

/-- Starts the engine unless it is running. -/
def ensureEngine : Run (Scene σ) Unit := do
  let session := (← get).session
  if session.hasEngine then pure ()
  else
    let params := session.options.launchParams
    inWorld (modify (World.logDebug session.options.debug (launchLine params)))
    inWorld (env.doLaunch params)
    change fun s => { s with hasEngine := true }

/-- Opens the page unless it is open. -/
def ensurePage : Run (Scene σ) Unit := do
  let session := (← get).session
  if session.hasPage then pure ()
  else if session.hasEngine then
    inWorld env.doCreatePage
    change fun s => { s with hasPage := true }
  else Run.fail (.engine "engine is not running")

/-- Gets engine and page ready, unless the session is closed. -/
def prepare : Run (Scene σ) Unit := do
  if (← get).session.isClosed then Run.fail .sessionClosed
  else
    ensureEngine env
    ensurePage env

/-- Where the actions of the session are executed. -/
def setting (session : Session σ) (budget : Nat) : Setting σ where
  env := env
  options := session.options
  afterOpen := session.afterOpen.toList
  budget := budget

/-- Executes the queued actions in order, up to the first that fails, and stops with its failure.
The queue is empty afterwards; only if engine or page could not be started, it stays. -/
def run (budget : Nat) : Run (Scene σ) Unit := do
  prepare env
  let session := (← get).session
  let (actions, queue) := session.queue.drain
  change fun s => { s with queue := queue }
  if session.hasPage then inWorld ((setting env session budget).executeAll actions)
  else Run.fail (.engine "page is not available")

/-- Shuts the engine down and drops everything queued. The session cannot run again. -/
def exit : Run (Scene σ) Unit := do
  let session := (← get).session
  change fun s =>
    { s with hasEngine := false, hasPage := false, isClosed := true, queue := {}, afterOpen := {} }
  if session.hasEngine then inWorld env.doExit

end Scene

end PagePilot
