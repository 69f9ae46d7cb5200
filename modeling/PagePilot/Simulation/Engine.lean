import PagePilot.Decimal.Layout
import PagePilot.Environment
import PagePilot.Simulation.Document
import PagePilot.Simulation.Stage

/-!
# A simulated engine

An engine whose page is a document in memory. Every call is noted as an event and may have a
prepared outcome.

## Main definitions

- `Simulation.PageParts` - the document and when its elements appear
- `Simulation.environment` - the environment of a session on a simulated engine
-/

namespace PagePilot.Simulation

/-- What the page consists of. -/
structure PageParts where
  document : Document := []
  /-- When the elements of a selector appear; without an entry they are there from the start. -/
  appearsAt : List (String × Duration) := []

/-- A stage with a document. -/
abbrev EngineStage := Stage Failure PageParts

/-- A call to a simulated engine. -/
abbrev Call (α : Type) := EStateM (Fault Failure) EngineStage α

/-- Whether the elements of a selector are there. -/
def EngineStage.appeared (stage : EngineStage) (selector : String) : Bool :=
  match stage.parts.appearsAt.find? fun (key, _) => key == selector with
  | some (_, time) => time ≤ stage.clock
  | none => true

/-- A call that gives nothing unless it fails. -/
def announce (name : String) (details : List Json) : Call Unit := do
  Stage.record name details
  let _ ← Stage.outcome name

/-- The function as it is named in events: by its short name if it is one of the page functions. -/
def functionName (source : String) : String :=
  match PageFunction.ofSource? source with
  | some f => f.label
  | none => source

/-- Asks the document. It knows the page functions by their short names. -/
def consult (name : String) (args : List Json) : Call Json := do
  match PageFunction.ofLabel? name with
  | none => throw (.failed (.engine ("fake page cannot evaluate " ++ name)))
  | some f =>
    let stage : EngineStage ← get
    let (result, document) := stage.parts.document.answer (EngineStage.appeared stage) f args
    set ({ stage with parts := { stage.parts with document := document } } : EngineStage)
    pure result

/-- Evaluates a function, given by its text or a short name: a prepared outcome for it comes first,
then one for any function, then the document. -/
def evaluate (source : String) (args : List Json) : Call Json := do
  let name := functionName source
  Stage.record "evaluate" [.str name, .arr args]
  match ← Stage.outcome ("evaluate:" ++ name) with
  | some value => pure value
  | none =>
    match ← Stage.outcome "evaluate" with
    | some value => pure value
    | none => consult name args

/-- Flags as an object. -/
def flagsJson (flags : List (String × String)) : Json :=
  .obj (flags.map fun (name, value) => (name, .str value))

/-- An operation on the page. -/
def perform : (call : PageCall) → Call call.Answer
  | .navigate url => announce "open" [.str url]
  | .evaluate function args => evaluate function args
  | .setViewport width height => announce "set_viewport" [.nat width.toNat, .nat height.toNat]
  | .render path => announce "render" [.str path]
  | .clickAt x y =>
    announce "send_event"
      [.str "Click", .str (Decimal.plainText x), .str (Decimal.plainText y)]

/-- The environment of a session on a simulated engine. -/
def environment : Environment EngineStage where
  launch params := Host.lift id
    (announce "launch" [.nat params.width.toNat, .nat params.height.toNat, flagsJson params.flags])
  createPage := Host.lift id (announce "create_page" [])
  exit := Host.lift id (announce "exit" [])
  call call := Host.lift id (perform call)
  now := Stage.now
  sleep d := Host.lift id (Stage.sleep d)

end PagePilot.Simulation
