import PagePilot.Text.Quoted
import PagePilot.Time.Duration

/-!
# Wait targets

What a session can be asked to wait for.

## Main definitions

- `WaitTarget` - a duration, a selector or a page function
- `WaitTarget.report` - the target in one line
-/

namespace PagePilot

/-- What to wait for. -/
inductive WaitTarget
  | delay (duration : Duration)
  /-- At least one element matches. -/
  | selector (selector : String)
  /-- The page function gives a truthy value. -/
  | function (source : String)
deriving DecidableEq

namespace WaitTarget

/-- A number of milliseconds to wait. -/
def ofMillis (ms : UInt64) : WaitTarget := .delay (.ofMillis ms)

/-- The target in one line. -/
def report : WaitTarget → String
  | .delay d => "Delay(" ++ d.text ++ ")"
  | .selector s => "Selector(" ++ Text.quoted s ++ ")"
  | .function f => "Function(Script(" ++ Text.quoted f ++ "))"

end WaitTarget

end PagePilot
