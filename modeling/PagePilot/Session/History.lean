import PagePilot.Session.Basic
import PagePilot.Session.Scope

/-!
# Histories

What is done with a session from its beginning on, one operation after the other, with what each of
them found, answered and left.

## Main definitions

- `Operation` - what can be done with a session
- `Step` - an operation that has been performed
- `Scene.start` - a new session
- `Scene.perform`, `Scene.history` - performing one operation, and one after the other
- `Scene.after` - where a history leads

## Design notes

A scope is a value, and all that the session sees of it are the actions that it asks for. A history
therefore names the scope of a verb as it is at the time, whichever calls have made it so.
-/

namespace PagePilot

/-- What can be done with a session. -/
inductive Operation (σ : Type)
  /-- Queue an action. -/
  | enqueue (action : Action σ)
  /-- Register an action to follow every navigation. -/
  | afterOpen (action : Action σ)
  /-- Tell a scope of the session something. -/
  | tell (scope : Scope) (verb : Verb σ)
  | run (budget : Nat)
  | exit
  /-- Leave the session alone while the outside changes. -/
  | meanwhile (change : σ → σ)

/-- Does what an operation says. -/
def Operation.toRun (env : Environment σ) : Operation σ → Run (Scene σ) Unit
  | .enqueue action => Scene.enqueue [action]
  | .afterOpen action => Scene.afterOpen action
  | .tell scope verb => do
    let options := (← get).session.options
    Scene.enqueue (scope.actions options verb)
  | .run budget => Scene.run env budget
  | .exit => Scene.exit env
  | .meanwhile change => Scene.inWorld (World.update change)

/-- An operation that has been performed. -/
structure Step (σ : Type) where
  operation : Operation σ
  before : Scene σ
  answer : Except Stop Unit
  after : Scene σ

namespace Scene

variable {σ : Type}

/-- A new session. -/
def start (options : SessionOptions) (host : σ) : Scene σ where
  session := { options := options }
  world := { host := host }

variable (env : Environment σ)

/-- Performs an operation. -/
def perform (scene : Scene σ) (operation : Operation σ) : Step σ :=
  match (operation.toRun env).run scene with
  | .ok () after => ⟨operation, scene, .ok (), after⟩
  | .error stop after => ⟨operation, scene, .error stop, after⟩

/-- Performs operations one after the other, whatever they answer. -/
def history (scene : Scene σ) : List (Operation σ) → List (Step σ)
  | [] => []
  | operation :: rest =>
    let step := scene.perform env operation
    step :: history step.after rest

/-- The scene to which operations lead. -/
def after (scene : Scene σ) (operations : List (Operation σ)) : Scene σ :=
  operations.foldl (fun scene operation => (scene.perform env operation).after) scene

variable (scene : Scene σ)

theorem history_cons (operation : Operation σ) (rest : List (Operation σ)) :
    scene.history env (operation :: rest)
      = scene.perform env operation :: (scene.perform env operation).after.history env rest := rfl

theorem after_cons (operation : Operation σ) (rest : List (Operation σ)) :
    scene.after env (operation :: rest) = (scene.perform env operation).after.after env rest := rfl

theorem before_perform (operation : Operation σ) :
    (scene.perform env operation).before = scene := by
  rw [perform]
  split <;> rfl

theorem operation_perform (operation : Operation σ) :
    (scene.perform env operation).operation = operation := by
  rw [perform]
  split <;> rfl

theorem after_append (operations rest : List (Operation σ)) :
    scene.after env (operations ++ rest) = (scene.after env operations).after env rest :=
  List.foldl_append

theorem history_append (operations rest : List (Operation σ)) :
    scene.history env (operations ++ rest)
      = scene.history env operations ++ (scene.after env operations).history env rest := by
  induction operations generalizing scene with
  | nil => rfl
  | cons operation operations ih =>
    exact congrArg (scene.perform env operation :: ·) (ih (scene.perform env operation).after)

end Scene

end PagePilot
