import PagePilot.Time.Duration

/-!
# Failures

What can go wrong with a step of a session, by cause, and how it is told.

## Main definitions

- `Mismatch` - what a check expected and what it saw
- `Failure`, `Failure.message` - the causes and their wording
- `Fault` - why a call to the outside did not succeed
- `Stop` - why a run did not come to its end
-/

namespace PagePilot

/-- A check whose expectation was not met. -/
structure Mismatch where
  /-- The full selector of the checked element; a check of a page function has none. -/
  selector : Option String
  expected : String
  actual : String
  /-- The mismatch in one sentence. -/
  summary : String
deriving DecidableEq

/-- Every way in which a step can fail. -/
inductive Failure
  /-- A step needs an element, but its scope has no selection. -/
  | noSelection
  | elementNotFound (selector : String)
  | notAnInput (selector : String)
  /-- A wait did not see its condition hold within its time limit. -/
  | timeout (condition : String) (limit : Duration)
  | invalidArgument (detail : String)
  | mismatch (report : Mismatch)
  /-- The session has been exited. -/
  | sessionClosed
  | launchFailed (detail : String)
  | navigationFailed (detail : String)
  /-- The browser reported a failure, or gave an answer that makes no sense. -/
  | engine (detail : String)
  /-- A local file could not be written. -/
  | io (detail : String)
  | invalidOptions (detail : String)
deriving DecidableEq

instance : Inhabited Failure := ⟨.noSelection⟩

/-- The wording of a failure. -/
def Failure.message : Failure → String
  | .noSelection => "Nothing is selected"
  | .elementNotFound selector => "Element not found: " ++ selector
  | .notAnInput selector => "Element is not an input: " ++ selector
  | .timeout condition limit =>
    "Timed out after " ++ toString limit.millis ++ "ms waiting for " ++ condition
  | .invalidArgument detail => "Invalid argument: " ++ detail
  | .mismatch report => "Assertion failed: " ++ report.summary
  | .sessionClosed => "Session is closed"
  | .launchFailed detail => "Failed to launch browser: " ++ detail
  | .navigationFailed detail => "Navigation failed: " ++ detail
  | .engine detail => "Engine error: " ++ detail
  | .io detail => "I/O error: " ++ detail
  | .invalidOptions detail => "Invalid options: " ++ detail

/-- Why a call to the outside did not succeed: it failed with a cause of type `ε`, or a clock was
to be moved beyond the longest duration. -/
inductive Fault (ε : Type)
  | failed (cause : ε)
  | clockOverflow
deriving DecidableEq

/-- The same fault with its cause told differently. -/
def Fault.map (tell : ε → δ) : Fault ε → Fault δ
  | .failed cause => .failed (tell cause)
  | .clockOverflow => .clockOverflow

/-- Why a run did not come to its end. -/
inductive Stop
  | failed (failure : Failure)
  | clockOverflow
  /-- The rounds that the run was granted for waits and nested navigations were used up. -/
  | exhausted
deriving DecidableEq

/-- A fault of a call stops the run that made it. -/
def Stop.ofFault : Fault Failure → Stop
  | .failed failure => .failed failure
  | .clockOverflow => .clockOverflow

end PagePilot
