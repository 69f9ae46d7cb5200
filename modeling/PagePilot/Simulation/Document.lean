import PagePilot.Json.Basic
import PagePilot.Page.Function
import PagePilot.Text.Blank

/-!
# Documents

A page reduced to what the page functions can see of it: for every selector the list of elements
that match it.

## Main definitions

- `Simulation.Element`, `Simulation.Document` - elements by selector
- `Simulation.Document.answer` - what a page function gives, and the document after it
-/

namespace PagePilot.Simulation

/-- An element. -/
structure Element where
  classes : List String := []
  /-- Elements that are no inputs have none. -/
  value : Option String := none
  text : String := ""
  checked : Bool := false
  hidden : Bool := false
  left : Json := .null
  top : Json := .null

instance : Inhabited Element := ⟨{}⟩

/-- The elements that match each selector. -/
abbrev Document := List (String × List Element)

namespace Document

/-- The elements that match a selector. -/
def elements (document : Document) (selector : String) : List Element :=
  match document.find? fun (key, _) => key == selector with
  | some (_, elements) => elements
  | none => []

/-- Replaces the elements that match a selector. -/
def put (document : Document) (selector : String) (elements : List Element) : Document :=
  (selector, elements) :: document.filter fun (key, _) => key != selector

/-- An argument as a text; what is no text counts as the empty one. -/
def textArg (args : List Json) (index : Nat) : String :=
  (args[index]?.bind Json.asText?).getD ""

/-- Something about the first element; `null` if there is none. -/
def ofFirst (elements : List Element) (view : Element → Json) : Json :=
  match elements with
  | [] => .null
  | first :: _ => view first

/-- What a page function gives when `seen` are the elements that match its first argument, and
these elements after it. -/
def answerSeen (f : PageFunction) (seen : List Element) (args : List Json) :
    Json × List Element :=
  match f with
  | .click => (.bool !seen.isEmpty, seen)
  | .clickTarget => (ofFirst seen fun e => .obj [("left", e.left), ("top", e.top)], seen)
  | .setValue =>
    match seen with
    | [] => (.str "missing", seen)
    | first :: rest =>
      if first.value.isNone then (.str "not-input", seen)
      else (.str "ok", { first with value := some (textArg args 1) } :: rest)
  | .count => (.nat seen.length, seen)
  | .hasClass => (ofFirst seen fun e => .bool (e.classes.contains (textArg args 1)), seen)
  | .visible => (ofFirst seen fun e => .bool !e.hidden, seen)
  | .value => (ofFirst seen fun e => (e.value.map Json.str).getD (.bool false), seen)
  | .text =>
    (ofFirst seen fun _ => .str (String.join (seen.map fun e => Text.trim e.text)), seen)
  | .checked => (ofFirst seen fun e => .bool e.checked, seen)

/-- What a page function gives, and the document after it. Elements that have not `appeared` match
nothing. -/
def answer (document : Document) (appeared : String → Bool) (f : PageFunction) (args : List Json) :
    Json × Document :=
  let selector := textArg args 0
  if appeared selector then
    let (result, after) := answerSeen f (document.elements selector) args
    match f with
    | .setValue => (result, document.put selector after)
    | _ => (result, document)
  else ((answerSeen f [] args).1, document)

end Document

end PagePilot.Simulation
