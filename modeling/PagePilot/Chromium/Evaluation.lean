import PagePilot.Failure
import PagePilot.Json.Reader.Record

/-!
# Evaluation in Chromium

A page function is wrapped so that its call, its arguments and what it throws travel as one JSON
text.

## Main definitions

- `Chromium.evaluationScript` - the wrapper around a function and its arguments
- `Chromium.Evaluation` - what the wrapper's text says
- `Chromium.decodeAnswer` - the result of a function, or its failure
-/

namespace PagePilot.Chromium

/-- The wrapper up to the function. -/
def scriptHead : String :=
  "(function () \x7b
            try \x7b
                return JSON.stringify(\x7b value: ("

/-- The wrapper between the function and its arguments. -/
def scriptMiddle : String := ").apply(null, "

/-- The wrapper behind the arguments. -/
def scriptTail : String :=
  ") \x7d);
            \x7d catch (e) \x7b
                return JSON.stringify(\x7b error: String(e && e.stack ? e.stack : e) \x7d);
            \x7d
        \x7d)()"

/-- The script that calls a function with arguments. -/
def evaluationScript (function : String) (args : List Json) : String :=
  scriptHead ++ function ++ scriptMiddle ++ (Json.arr args).text ++ scriptTail

/-- What the wrapper's text says: a value, which may be missing, or what was thrown. -/
structure Evaluation where
  value : Json := .null
  error : Option String := none

/-- The wrapper's text as a record. -/
def Evaluation.record : Json.Record Evaluation where
  title := "struct Evaluation"
  fields :=
    [.of "value" (Json.readValue (Json.deepest - 1)) fun v e => { e with value := v },
     .of "error" (Json.readOptional (Json.readString "a string"))
       (fun v e => { e with error := v }) false]

/-- The result of a function from the wrapper's text. What was thrown is told as it is. -/
def decodeText (text : String) : Except Failure Json :=
  match Evaluation.record.parse {} text with
  | .error fault => .error (.engine (fault.message text.toList))
  | .ok ⟨_, some thrown⟩ => .error (.engine thrown)
  | .ok ⟨value, none⟩ => .ok value

/-- The result of a function from the browser's answer, which should be the wrapper's text. -/
def decodeAnswer : Option Json → Except Failure Json
  | none => .error (.engine "No value returned from page evaluation")
  | some (.str text) => decodeText text
  | some other => .error (.engine ("Unexpected evaluation result: " ++ other.text))

end PagePilot.Chromium
