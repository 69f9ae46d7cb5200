import PagePilot.Failure
import PagePilot.Json.Basic

/-!
# Stages

The common ground of all simulated engines: a clock, a log of events, and a script of prepared
outcomes for calls.

## Main definitions

- `Simulation.Outcome`, `Simulation.Script` - prepared outcomes, by the name of the call
- `Simulation.Stage` - clock, events, script, and what else the engine consists of
- `Simulation.Stage.outcome` - takes the next outcome of a call
-/

namespace PagePilot.Simulation

/-- How a prepared call answers. -/
inductive Answer (ε : Type)
  | value (value : Json)
  | failure (cause : ε)
  /-- As if nothing had been prepared. -/
  | pass

/-- A prepared outcome. -/
structure Outcome (ε : Type) where
  answer : Answer ε
  /-- How many calls it answers. -/
  times : Nat := 1
  /-- How much time passes before it answers. -/
  advance : Duration := .zero

/-- The outcomes of one call; those that answer no further call are dropped. -/
def nextOutcome : List (Outcome ε) → Option (Outcome ε) × List (Outcome ε)
  | [] => (none, [])
  | o :: rest =>
    match o.times with
    | 0 => nextOutcome rest
    | 1 => (some o, rest)
    | times + 1 => (some o, { o with times := times } :: rest)

/-- Prepared outcomes, in order, by the name of the call. -/
abbrev Script (ε : Type) := List (String × List (Outcome ε))

namespace Script

/-- The outcomes of a call. -/
def get (script : Script ε) (name : String) : List (Outcome ε) :=
  match script.find? fun (key, _) => key == name with
  | some (_, outcomes) => outcomes
  | none => []

/-- Replaces the outcomes of a call. -/
def put (script : Script ε) (name : String) (outcomes : List (Outcome ε)) : Script ε :=
  (name, outcomes) :: script.filter fun (key, _) => key != name

/-- Adds outcomes behind those of a call. -/
def add (script : Script ε) (name : String) (outcomes : List (Outcome ε)) : Script ε :=
  script.put name (script.get name ++ outcomes)

end Script

/-- A simulated engine with parts of a type `γ`. -/
structure Stage (ε γ : Type) where
  /-- The clock that is moved by hand, by prepared outcomes and, unless there is a clock of its
  own for it, by sleeping. -/
  clock : Duration := .zero
  /-- A second clock, which the session reads and sleeps on. It runs by itself: no two readings of
  it are the same. -/
  ownClock : Option Duration := none
  script : Script ε := []
  events : Array Json := #[]
  parts : γ

namespace Stage

variable {ε γ : Type}

/-- Adds an event. -/
def noteEvent (event : Json) (stage : Stage ε γ) : Stage ε γ :=
  { stage with events := stage.events.push event }

/-- Adds an event that consists of a name and details. -/
def record (name : String) (details : List Json) : EStateM (Fault δ) (Stage ε γ) Unit :=
  modify (noteEvent (.arr (.str name :: details)))

/-- Moves the clock. -/
def advance (d : Duration) : EStateM (Fault δ) (Stage ε γ) Unit := fun stage =>
  match stage.clock.add? d with
  | some later => .ok () { stage with clock := later }
  | none => .error .clockOverflow stage

/-- The time that passes between two readings of a clock that runs by itself. -/
def tick : Duration := ⟨1, by decide⟩

/-- What the session's clock shows. -/
def now (stage : Stage ε γ) : Duration × Stage ε γ :=
  match stage.ownClock with
  | none => (stage.clock, stage)
  | some time =>
    let later := (time.add? tick).getD .max
    (later, { stage with ownClock := some later })

/-- Sleeps on the session's clock. -/
def sleep (d : Duration) : EStateM (Fault δ) (Stage ε γ) Unit := fun stage =>
  match stage.ownClock with
  | none => advance d stage
  | some time =>
    match time.add? d with
    | some later => .ok () { stage with ownClock := some later }
    | none => .error .clockOverflow stage

/-- Takes the next prepared outcome of a call; none if nothing is prepared or it is to be passed
over. -/
def outcome (name : String) : EStateM (Fault ε) (Stage ε γ) (Option Json) := do
  let stage ← get
  let (next, left) := nextOutcome (stage.script.get name)
  set { stage with script := stage.script.put name left }
  match next with
  | none => pure none
  | some o =>
    advance o.advance
    match o.answer with
    | .value value => pure (some value)
    | .failure cause => throw (.failed cause)
    | .pass => pure none

end Stage

end PagePilot.Simulation
