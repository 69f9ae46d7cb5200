import PagePilot.Failure
import PagePilot.Json.Printer
import PagePilot.Page.Function

/-!
# Checks

Assertions about a page. Each asks the page one question, forms an observation from the answer,
and compares it with the expectation, which is that the check holds, or that it does not.

## Main definitions

- `ElementCheck`, `Subject`, `Check` - what is asserted
- `Check.question` - the function and the arguments that the page evaluates
- `Check.observe` - what an answer shows
- `Check.verdict` - whether an answer meets the expectation
-/

namespace PagePilot

/-- What is asserted of the elements that match a selector. -/
inductive ElementCheck
  /-- The first one has a class. -/
  | hasClass (name : String)
  /-- There are so many. -/
  | count (number : Nat)
  /-- The first one takes up room. -/
  | visible
  /-- The first one has a value, and it is this. -/
  | value (value : String)
  /-- Their trimmed texts, joined, are this. -/
  | text (text : String)
  /-- The first one is checked. -/
  | checked
deriving DecidableEq, Repr

/-- The name of a check. -/
def ElementCheck.name : ElementCheck → String
  | .hasClass _ => "has_class"
  | .count _ => "count"
  | .visible => "visible"
  | .value _ => "value"
  | .text _ => "text"
  | .checked => "checked"

/-- What is asserted: a fact about elements, or that a page function gives a truthy value. -/
inductive Subject
  | element (selector : String) (check : ElementCheck)
  | function (source : String) (args : List Json)

/-- An assertion about the page. -/
structure Check where
  /-- Whether the subject is expected to hold. -/
  expected : Bool
  subject : Subject

/-- What an answer of the page shows. -/
structure Observation where
  holds : Bool
  expected : String
  actual : String
  summary : String

namespace Check

/-- The name of what is checked. -/
def name (c : Check) : String :=
  match c.subject with
  | .element _ check => check.name
  | .function _ _ => "eval"

/-- The full selector of the elements in question. -/
def selector? (c : Check) : Option String :=
  match c.subject with
  | .element selector _ => some selector
  | .function _ _ => none

/-- The check in one line. -/
def describe (c : Check) : String :=
  "test" ++ (if c.expected then "" else ".not") ++ "." ++ c.name ++ "("
    ++ c.selector?.getD "<fn>" ++ ")"

/-- The function and the arguments that the page evaluates for a check. -/
def question (c : Check) : String × List Json :=
  match c.subject with
  | .element selector (.hasClass name) => (PageFunction.hasClass.source, [.str selector, .str name])
  | .element selector (.count _) => (PageFunction.count.source, [.str selector])
  | .element selector .visible => (PageFunction.visible.source, [.str selector])
  | .element selector (.value _) => (PageFunction.value.source, [.str selector])
  | .element selector (.text _) => (PageFunction.text.source, [.str selector])
  | .element selector .checked => (PageFunction.checked.source, [.str selector])
  | .function source args => (source, args)

/-- The answer `null` to a question about an element says that there is none. -/
def found (selector : String) (answer : Json) : Except Failure Json :=
  if answer.isNull then .error (.elementNotFound selector) else .ok answer

/-- A yes-or-no answer about an element; what is no truth value counts as no. -/
def yesOrNo (selector : String) (answer : Json) : Except Failure Bool := do
  let answer ← found selector answer
  .ok (answer.asBool?.getD false)

/-- The word before what is expected not to hold. -/
def negation (expected : Bool) : String := if expected then "" else "not "

/-- What an answer shows about the elements that match a selector. -/
def observeElement (expected : Bool) (selector : String) (answer : Json) :
    ElementCheck → Except Failure Observation
  | .hasClass name => do
    let present ← yesOrNo selector answer
    .ok {
      holds := present
      expected := negation expected ++ "class '" ++ name ++ "'"
      actual := if present then "present" else "absent"
      summary := "expected '" ++ selector ++ "' " ++ negation expected ++ "to have class '" ++ name
        ++ "'" }
  | .count number =>
    match answer.asNat? with
    | none => .error (.engine ("Unexpected count for " ++ selector ++ ": " ++ answer.text))
    | some seen => .ok {
        holds := seen == number
        expected := negation expected ++ toString number
        actual := toString seen
        summary := "expected " ++ (if expected then "" else "anything but ") ++ toString number
          ++ " elements matching '" ++ selector ++ "', found " ++ toString seen }
  | .visible => do
    let visible ← yesOrNo selector answer
    .ok {
      holds := visible
      expected := negation expected ++ "visible"
      actual := if visible then "visible" else "hidden"
      summary := "expected '" ++ selector ++ "' " ++ negation expected ++ "to be visible" }
  | .value value => do
    match ← found selector answer with
    | .str seen => .ok {
        holds := seen == value
        expected := value
        actual := seen
        summary := "expected value of '" ++ selector ++ "' " ++ negation expected ++ "to be '"
          ++ value ++ "', found '" ++ seen ++ "'" }
    | _ => .error (.notAnInput selector)
  | .text text => do
    let seen := (← found selector answer).asText?.getD ""
    .ok {
      holds := seen == text
      expected := text
      actual := seen
      summary := "expected text of '" ++ selector ++ "' " ++ negation expected ++ "to be '"
        ++ text ++ "', found '" ++ seen ++ "'" }
  | .checked => do
    let checked ← yesOrNo selector answer
    .ok {
      holds := checked
      expected := negation expected ++ "checked"
      actual := if checked then "checked" else "unchecked"
      summary := "expected '" ++ selector ++ "' " ++ negation expected ++ "to be checked" }

/-- What an answer shows about a page function. -/
def observeFunction (expected : Bool) (answer : Json) : Observation where
  holds := answer.isTruthy
  expected := if expected then "truthy" else "falsy"
  actual := answer.text
  summary := "expected page function to return a " ++ (if expected then "truthy" else "falsy")
    ++ " value, got " ++ answer.text

/-- What an answer of the page shows. -/
def observe (c : Check) (answer : Json) : Except Failure Observation :=
  match c.subject with
  | .element selector check => observeElement c.expected selector answer check
  | .function _ _ => .ok (observeFunction c.expected answer)

/-- Whether an answer meets the expectation; if not, what was expected and what was seen. -/
def verdict (c : Check) (answer : Json) : Except Failure Unit := do
  let seen ← c.observe answer
  if seen.holds = c.expected then .ok ()
  else .error (.mismatch ⟨c.selector?, seen.expected, seen.actual, seen.summary⟩)

end Check

end PagePilot
