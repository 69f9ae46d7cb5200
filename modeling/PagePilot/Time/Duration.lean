/-!
# Durations

Spans of time in whole nanoseconds, below `2^64` seconds. The same values serve as readings of a
clock: the time since its origin.

## Main definitions

- `Duration` - a span of time, with its bound
- `Duration.ofMillis`, `Duration.millis` - whole milliseconds in and out
- `Duration.add?` - the sum, unless it passes the bound
- `Duration.since` - the time elapsed between two readings, never negative
- `Duration.text` - the value in its largest unit
-/

namespace PagePilot

/-- The number of nanoseconds that no duration reaches: those of `2^64` seconds. -/
def Duration.limit : Nat := 18446744073709551616 * 1000000000

/-- A span of time in nanoseconds. -/
structure Duration where
  nanos : Nat
  nanos_lt : nanos < Duration.limit := by decide
deriving DecidableEq

namespace Duration

@[ext] theorem ext_nanos {a b : Duration} (h : a.nanos = b.nanos) : a = b := by
  cases a; cases b; simp_all

def zero : Duration := ⟨0, by decide⟩

instance : Inhabited Duration := ⟨zero⟩

/-- The longest duration, one nanosecond below the bound. -/
def max : Duration := ⟨limit - 1, by decide⟩

/-- A count of milliseconds that fits a 64-bit word. -/
def ofMillis (ms : UInt64) : Duration :=
  ⟨ms.toNat * 1000000, by
    have := ms.toNat_lt
    unfold limit
    omega⟩

/-- Seconds and nanoseconds; what passes the bound becomes `max`. -/
def ofParts (seconds nanos : Nat) : Duration :=
  if h : seconds * 1000000000 + nanos < limit then ⟨_, h⟩ else max

/-- The whole seconds. -/
def seconds (d : Duration) : Nat := d.nanos / 1000000000

/-- The nanoseconds beyond the whole seconds. -/
def subsecond (d : Duration) : Nat := d.nanos % 1000000000

/-- The whole milliseconds. -/
def millis (d : Duration) : Nat := d.nanos / 1000000

/-- The whole milliseconds as a 64-bit word: the low 64 bits of their number. -/
def millisWord (d : Duration) : UInt64 := UInt64.ofNat d.millis

/-- The sum of two durations, unless it reaches the limit. -/
def add? (a b : Duration) : Option Duration :=
  if h : a.nanos + b.nanos < limit then some ⟨a.nanos + b.nanos, h⟩ else none

/-- The time from `start` to `now`, zero if `now` is the earlier one. -/
def since (now start : Duration) : Duration :=
  ⟨now.nanos - start.nanos, Nat.lt_of_le_of_lt (Nat.sub_le _ _) now.nanos_lt⟩

instance : LT Duration := ⟨fun a b => a.nanos < b.nanos⟩

instance : LE Duration := ⟨fun a b => a.nanos ≤ b.nanos⟩

instance (a b : Duration) : Decidable (a < b) := inferInstanceAs (Decidable (a.nanos < b.nanos))

instance (a b : Duration) : Decidable (a ≤ b) := inferInstanceAs (Decidable (a.nanos ≤ b.nanos))

/-- The digits of `part` as a fraction of `places` places, without zeros at the end and without
the point if nothing is left. -/
def fractionText (part places : Nat) : String :=
  let digits := Nat.toDigits 10 part
  let padded := List.replicate (places - digits.length) '0' ++ digits
  match (padded.reverse.dropWhile (· == '0')).reverse with
  | [] => ""
  | kept => "." ++ String.ofList kept

/-- A duration is written in the largest unit in which it is at least one, with as many decimal
places as it needs; zero is written in nanoseconds. -/
def text (d : Duration) : String :=
  if d.nanos ≥ 1000000000 then
    toString (d.nanos / 1000000000) ++ fractionText (d.nanos % 1000000000) 9 ++ "s"
  else if d.nanos ≥ 1000000 then
    toString (d.nanos / 1000000) ++ fractionText (d.nanos % 1000000) 6 ++ "ms"
  else if d.nanos ≥ 1000 then
    toString (d.nanos / 1000) ++ fractionText (d.nanos % 1000) 3 ++ "µs"
  else
    toString d.nanos ++ "ns"

theorem add?_eq_some {a b c : Duration} :
    a.add? b = some c ↔ c.nanos = a.nanos + b.nanos := by
  constructor
  · intro h
    unfold add? at h
    split at h
    · simp only [Option.some.injEq] at h
      rw [← h]
    · simp at h
  · intro h
    have bound : a.nanos + b.nanos < limit := h ▸ c.nanos_lt
    simp only [add?, bound, dite_true, Option.some.injEq]
    exact ext_nanos h.symm

theorem add?_eq_none {a b : Duration} : a.add? b = none ↔ limit ≤ a.nanos + b.nanos := by
  unfold add?
  split
  · simp; omega
  · simp; omega

end Duration

end PagePilot
