import PagePilot.Action.Basic
import PagePilot.Environment
import PagePilot.Run

/-!
# Worlds

The state of a run: the outside, and a journal of what has been done to it. The journal says which
actions were begun, what was asked of the environment and whether it was granted, and what was
logged, in the order in which it happened.

## Main definitions

- `Role`, `Entry` - the entries of a journal
- `World` - the outside and the journal
- `World.ask`, `World.aside`, `World.logDebug`, `World.begin` - what leaves an entry
- `Environment.doLaunch` and its kin - calls to an environment that leave an entry
- `Environment.clock` - the clock of an environment

## Design notes

A call to the outside sees an empty log and can only add to it, so no environment can undo what
has been noted. The same holds of code that is run on the spot. Custom actions reach the journal by
what they log and in no other way.
-/

namespace PagePilot

/-- Why an action is executed. -/
inductive Role
  /-- It was queued. -/
  | main
  /-- It follows a navigation. -/
  | afterOpen
deriving DecidableEq, Repr

/-- What a session has done. -/
inductive Entry (σ : Type)
  | began (role : Role) (action : Action σ)
  | launched (params : LaunchParams) (succeeded : Bool)
  | createdPage (succeeded : Bool)
  | exited (succeeded : Bool)
  | called (call : PageCall) (succeeded : Bool)
  | slept (duration : Duration) (succeeded : Bool)
  | logged (record : LogRecord)

/-- The state of a run: the outside and the journal. -/
structure World (σ : Type) where
  host : σ
  journal : Array (Entry σ) := #[]

namespace World

variable {σ α : Type}

/-- Adds an entry to the journal. -/
def note (entry : Entry σ) (world : World σ) : World σ :=
  { world with journal := world.journal.push entry }

/-- The world after a call: what the call has logged is noted, then the call itself. -/
def afterCall (journal : Array (Entry σ)) (hosted : Hosted σ) (entry : Entry σ) : World σ where
  host := hosted.host
  journal := (journal ++ (hosted.records.map Entry.logged).toArray).push entry

/-- Makes a call and notes whether it succeeded. The world is taken apart first, so that the call
owns the outside and may change it in place. -/
def ask (call : Host Failure σ α) (entry : Bool → Entry σ) : Run (World σ) α :=
  fun ⟨host, journal⟩ =>
    match call.run { host := host } with
    | .ok a hosted => .ok a (afterCall journal hosted (entry true))
    | .error fault hosted => .error (.ofFault fault) (afterCall journal hosted (entry false))

/-- Writes a line to the log if `on`. -/
def logDebug (on : Bool) (text : String) (world : World σ) : World σ :=
  if on then world.note (.logged ⟨.debug, text⟩) else world

/-- Runs code on the spot and notes what it has logged. -/
def runAside (code : Aside σ α) : World σ → α × World σ := fun ⟨host, journal⟩ =>
  match code.run { host := host } with
  | (a, hosted) => (a, ⟨hosted.host, journal ++ (hosted.records.map Entry.logged).toArray⟩)

/-- Runs code on the spot, as a part of a run. -/
def aside (code : Aside σ α) : Run (World σ) α := fun world =>
  match runAside code world with
  | (a, world) => .ok a world

/-- Writes a line about an action to the log if `on`. The action is asked for its own line then. -/
def logLine (on : Bool) (action : Action σ) (text : String → String) (world : World σ) : World σ :=
  if on then
    match runAside action.tell world with
    | (line, world) => world.note (.logged ⟨.debug, text line⟩)
  else world

/-- Notes that an action is about to be executed, and logs it if `debug`. -/
def begin (debug : Bool) (role : Role) (action : Action σ) (world : World σ) : World σ :=
  (world.note (.began role action)).logLine debug action id

/-- Looks at the outside without a call. -/
def observe : Run (World σ) σ := fun world => .ok world.host world

/-- Changes the outside without a call. -/
def update (change : σ → σ) : Run (World σ) Unit :=
  modify fun world => { world with host := change world.host }

end World

namespace Environment

variable {σ : Type} (env : Environment σ)

/-- Starts the engine. -/
def doLaunch (params : LaunchParams) : Run (World σ) Unit :=
  World.ask (env.launch params) (.launched params)

/-- Opens the page of the engine. -/
def doCreatePage : Run (World σ) Unit := World.ask env.createPage .createdPage

/-- Shuts the engine down. -/
def doExit : Run (World σ) Unit := World.ask env.exit .exited

/-- Does something on the page. -/
def doCall (call : PageCall) : Run (World σ) call.Answer := World.ask (env.call call) (.called call)

/-- The clock of the environment. -/
def clock : Clock (World σ) where
  now world := match env.now world.host with
    | (time, host) => (time, { world with host := host })
  sleep d := World.ask (env.sleep d) (.slept d)

end Environment

end PagePilot
