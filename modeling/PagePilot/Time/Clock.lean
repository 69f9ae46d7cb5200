import PagePilot.Run

/-!
# Clocks

Where a run reads the time and how it sleeps.

## Main definitions

- `Clock` - reading and sleeping, over any state
- `Clock.manual` - a clock that moves only when slept on
-/

namespace PagePilot

/-- A clock that lives in a state of type `ω`. -/
structure Clock (ω : Type) where
  /-- The time since the clock's origin. -/
  now : ω → Duration × ω
  sleep : Duration → Run ω Unit

namespace Clock

/-- Reading a clock never stops a run. -/
def read (clock : Clock ω) : Run ω Duration := fun w =>
  match clock.now w with
  | (time, w) => .ok time w

theorem run_read (clock : Clock ω) {w : ω} :
    clock.read.run w = .ok (clock.now w).1 (clock.now w).2 := rfl

/-- Moves a reading forward; a reading that cannot move stays, and the run stops. -/
def advance (d : Duration) : Run Duration Unit := fun time =>
  match time.add? d with
  | some later => .ok () later
  | none => .error .clockOverflow time

/-- A clock that shows its state and moves only when slept on. -/
def manual : Clock Duration where
  now time := (time, time)
  sleep := advance

end Clock

end PagePilot
