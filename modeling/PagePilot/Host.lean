import PagePilot.Failure

/-!
# Hosts

The outside, as a session meets it: computations over a state that the session does not look into.
They may fail, and they may write to the log. Code that the creator of a session brings along meets
the same outside.

## Main definitions

- `LogRecord` - a line of the log
- `Hosted`, `Host` - the state of the outside during a call, and the calls
- `Host.warn` - writes a line
- `Host.lift`, `Host.attempt` - operations that do not log, as calls
- `Host.andThen` - cleans up in any case
- `Aside` - code of a creator, which is run on the spot
-/

namespace PagePilot

/-- How urgent a line of the log is, as far as sessions and browsers write any. -/
inductive LogLevel
  | debug
  | warn
deriving DecidableEq, Repr

/-- A line of the log. -/
structure LogRecord where
  level : LogLevel
  text : String
deriving DecidableEq, Repr

/-- The state of the outside during a call, and what the call has logged so far. -/
structure Hosted (σ : Type) where
  host : σ
  records : List LogRecord := []

/-- A call to the outside, whose state is a `σ`. It fails with a cause of type `ε`. -/
abbrev Host (ε σ α : Type) := EStateM (Fault ε) (Hosted σ) α

namespace Host

variable {ε δ σ α : Type}

/-- Logs a warning. -/
def warn (text : String) : Host ε σ Unit := fun w =>
  .ok () { w with records := w.records ++ [⟨.warn, text⟩] }

/-- Runs an operation that does not log; `tell` makes a failure of its cause. -/
def lift (tell : ε → δ) (op : EStateM (Fault ε) σ α) : Host δ σ α := fun ⟨host, records⟩ =>
  match op.run host with
  | .ok a host => .ok a ⟨host, records⟩
  | .error fault host => .error (fault.map tell) ⟨host, records⟩

/-- Runs an operation that does not log and gives its cause if it fails. -/
def attempt (op : EStateM (Fault ε) σ α) : Host δ σ (Except ε α) := fun w =>
  match op.run w.host with
  | .ok a host => .ok (.ok a) { w with host := host }
  | .error (.failed cause) host => .ok (.error cause) { w with host := host }
  | .error .clockOverflow host => .error .clockOverflow { w with host := host }

/-- Runs `cleanup` after `body`, also when `body` stops. What `body` gave counts, unless `body`
went well and `cleanup` did not, or `cleanup` ran into the end of the clock. -/
def andThen (body : Host ε σ α) (cleanup : Host ε σ Unit) : Host ε σ α := fun w =>
  match body.run w with
  | .ok a w =>
    match cleanup.run w with
    | .ok _ w => .ok a w
    | .error fault w => .error fault w
  | .error fault w =>
    match cleanup.run w with
    | .ok _ w => .error fault w
    | .error (.failed _) w => .error fault w
    | .error .clockOverflow w => .error .clockOverflow w

end Host

/-- Code that the creator of a session has brought along. It is run on the spot, may look at the
outside and change it, and may write to the log. -/
abbrev Aside (σ α : Type) := StateM (Hosted σ) α

namespace Aside

variable {σ : Type}

/-- Changes the outside. -/
def change (f : σ → σ) : Aside σ Unit := modify fun w => { w with host := f w.host }

/-- Writes a line to the log. -/
def log (record : LogRecord) : Aside σ Unit := modify fun w =>
  { w with records := w.records ++ [record] }

end Aside

end PagePilot
