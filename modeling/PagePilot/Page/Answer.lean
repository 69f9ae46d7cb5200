import PagePilot.Failure
import PagePilot.Json.Reader.Misread
import PagePilot.Page.Function

/-!
# Answers to element actions

What the page's answers to the functions of clicks, of setting a value and of waiting mean.

## Main definitions

- `ClickMode` - the two ways to click
- `clickVerdict`, `clickPoint` - the answers to the two ways
- `setValueVerdict` - the answer to setting a value
- `anyMatch` - whether a count says that there is a match
-/

namespace PagePilot

/-- How a click reaches its element. -/
inductive ClickMode
  /-- A click event is dispatched on the element. -/
  | dispatch
  /-- The mouse is clicked at the element's top left corner. -/
  | mouse
deriving DecidableEq, Repr

/-- A dispatched click has reached its element only if the answer is `true`. -/
def clickVerdict (selector : String) : Json → Except Failure Unit
  | .bool true => .ok ()
  | _ => .error (.elementNotFound selector)

namespace ClickPoint

/-- A coordinate is a number of either kind. -/
def coordinate : Json → Except Json.Reason Float
  | .num n => .ok n.toFloat
  | value => .error (.wrongType (.ofJson value) "f64")

/-- A point from the members of an object, of which `left` and `top` count. -/
def ofMembers : List (String × Json) → (left top : Option Float) →
    Except Json.Reason (Float × Float)
  | [], none, _ => .error (.missingMember "left")
  | [], some _, none => .error (.missingMember "top")
  | [], some left, some top => .ok (left, top)
  | (key, value) :: rest, left, top =>
    if key = "left" then
      if left.isSome then .error (.repeatedMember key)
      else do ofMembers rest (some (← coordinate value)) top
    else if key = "top" then
      if top.isSome then .error (.repeatedMember key)
      else do ofMembers rest left (some (← coordinate value))
    else ofMembers rest left top

/-- A point from a list of exactly two numbers. -/
def ofItems : List Json → Except Json.Reason (Float × Float)
  | [] => .error (.wrongLength 0 "struct ClickTarget with 2 elements")
  | [left] => do
    let _ ← coordinate left
    .error (.wrongLength 1 "struct ClickTarget with 2 elements")
  | left :: top :: rest => do
    let left ← coordinate left
    let top ← coordinate top
    if rest.isEmpty then .ok (left, top)
    else .error (.wrongLength (rest.length + 2) "fewer elements in array")

/-- The point that a value describes. -/
def ofJson : Json → Except Json.Reason (Float × Float)
  | .obj members => ofMembers members none none
  | .arr items => ofItems items
  | value => .error (.wrongType (.ofJson value) "struct ClickTarget")

end ClickPoint

/-- Where the mouse is to be clicked. -/
def clickPoint (selector : String) (answer : Json) : Except Failure (Float × Float) :=
  if answer.isNull then .error (.elementNotFound selector)
  else match ClickPoint.ofJson answer with
    | .ok point => .ok point
    | .error reason =>
      .error (.engine ("Bad click target for " ++ selector ++ ": " ++ reason.message))

/-- The three answers to setting a value; any other makes no sense. -/
def setValueVerdict (selector : String) (answer : Json) : Except Failure Unit :=
  match answer.asText? with
  | some "ok" => .ok ()
  | some "not-input" => .error (.notAnInput selector)
  | some "missing" => .error (.elementNotFound selector)
  | _ =>
    .error (.engine ("Unexpected set_value result for " ++ selector ++ ": " ++ answer.text))

/-- Whether a count says that there is a match. What is no count says that there is none. -/
def anyMatch (answer : Json) : Bool :=
  answer.asNat?.getD 0 > 0

end PagePilot
