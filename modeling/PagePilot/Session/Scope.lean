import PagePilot.Action.Basic
import PagePilot.Session.WaitTarget
import PagePilot.Text.Blank

/-!
# Scopes

A scope knows the selectors of its ancestors and has one current selection. What it is told to do
becomes actions whose selectors are settled at once: a later selection changes nothing about them.

## Main definitions

- `Scope` - ancestors and selection
- `Scope.resolve` - the full selector of a target
- `Test` - an assertion that is about to be made
- `Verb` - what a scope can be told to do
- `Scope.actions` - the actions that a verb becomes
-/

namespace PagePilot

/-- Where selectors are looked up, and which one is current. -/
structure Scope where
  /-- The selectors of the ancestors, each followed by a space. -/
  ancestry : String := ""
  selected : Option String := none
deriving DecidableEq, Repr

namespace Scope

/-- The scope without ancestors. -/
def root : Scope := {}

/-- The scope under a selector. It starts without a selection. -/
def nest (scope : Scope) (selector : String) : Scope where
  ancestry := scope.ancestry ++ selector ++ " "

/-- Makes a selector the current one. -/
def select (scope : Scope) (selector : String) : Scope := { scope with selected := selector }

/-- A selector that says something. -/
def nonEmpty? : Option String → Option String
  | some selector => if selector = "" then none else some selector
  | none => none

/-- The full selector of an explicit target, or of the current selection if the target is missing
or empty. -/
def resolve (scope : Scope) (explicit : Option String) : Except Failure String :=
  match nonEmpty? ((nonEmpty? explicit).or scope.selected) with
  | some target => .ok (scope.ancestry ++ target)
  | none => .error .noSelection

/-- The scope in one line. -/
def report (scope : Scope) : String :=
  "Scope \x7b prefix: " ++ Text.quoted scope.ancestry ++ ", selected: "
    ++ Text.optional (scope.selected.map Text.quoted) ++ ", .. \x7d"

end Scope

/-- An assertion that is about to be made. -/
structure Test where
  expected : Bool := true
deriving DecidableEq, Repr

/-- Turns the expectation round. -/
def Test.not (test : Test) : Test := ⟨!test.expected⟩

/-- What a scope can be told to do. -/
inductive Verb (σ : Type)
  | enqueue (action : Action σ)
  /-- Do something with the selected element. -/
  | onSelection (verb : ElementVerb)
  | eval (function : String) (args : List Json) (receive : Option (Json → Aside σ Unit))
  | navigate (location : String)
  | viewport (width height : UInt32)
  | screenshot (path : String)
  | wait (target : WaitTarget)
  /-- Assert something of the selected element. -/
  | testElement (test : Test) (check : ElementCheck)
  /-- Assert that a page function gives a truthy value. -/
  | testFunction (test : Test) (function : String) (args : List Json)

namespace Scope

variable {σ : Type}

/-- Does something with an explicit target or with the selected element; is refused if there is
neither. -/
def targeted (scope : Scope) (explicit : Option String) (verb : ElementVerb) : Action σ :=
  match scope.resolve explicit with
  | .ok selector => verb.action selector
  | .error _ => .refused (.nothingSelected verb)

/-- Changes the size of the page; an empty one is refused. -/
def viewport (width height : UInt32) : Action σ :=
  if width = 0 ∨ height = 0 then .refused (.emptyViewport width height)
  else .viewport width height

/-- Waits for a target. An empty selector stands for the selected element; a blank function is
refused. -/
def wait (scope : Scope) : WaitTarget → Action σ
  | .delay duration => .delay duration
  | .selector selector => scope.targeted (some selector) .waitForSelector
  | .function source =>
    if Text.isBlankText source then .refused .blankFunction else .waitForFunction source []

/-- The actions that a verb becomes. A navigation is preceded by a return to the default size. -/
def actions (scope : Scope) (options : SessionOptions) : Verb σ → List (Action σ)
  | .enqueue action => [action]
  | .onSelection verb => [scope.targeted none verb]
  | .eval function args receive => [.eval function args receive]
  | .navigate location => [.viewport options.width options.height, .navigate location]
  | .viewport width height => [viewport width height]
  | .screenshot path => [.screenshot path]
  | .wait target => [scope.wait target]
  | .testElement test check => [scope.targeted none (.test test.expected check)]
  | .testFunction test function args => [.check ⟨test.expected, .function function args⟩]

end Scope

end PagePilot
