/-!
# Shortest decimal digits

The fewest decimal digits that identify a binary floating-point number among all others, and of
those the ones nearest to it.

A positive number `m · 2^q` owns an interval of reals: those that round to it. The multiples of
`10^k` form a grid; going from coarse grids to fine ones, the first grid that meets the interval
gives the digits. Of the points of that grid only the two neighbours of the number matter.

## Main definitions

- `Magnitude` - a positive binary number `m · 2^q`
- `Digits` - a decimal number in scientific form
- `Magnitude.shortest` - the shortest digits of a magnitude
- `Reading`, `Float.reading` - a floating-point number taken apart
-/

namespace PagePilot.Decimal

/-- Which of two equally near neighbours is taken. -/
inductive TieRule
  | toEven
  | up
deriving DecidableEq, Repr

/-- The binary number `mantissa · 2^exponent`. -/
structure Magnitude where
  mantissa : Nat
  exponent : Int
deriving DecidableEq, Repr

/-- The decimal number `d.ddd… · 10^exponent` whose digits, none of them a zero at the end, are
`digits`. -/
structure Digits where
  digits : List Char
  exponent : Int
deriving DecidableEq, Repr

/-- The decimal digits of `coefficient · 10^scale` without zeros at the end. -/
def Digits.ofScaled (coefficient : Nat) (scale : Int) : Digits :=
  let written := Nat.toDigits 10 coefficient
  { digits := (written.reverse.dropWhile (· == '0')).reverse
    exponent := scale + (written.length - 1 : Nat) }

/-- The first bit of a full mantissa, `2^52`, which is not stored. -/
def leadingBit : Nat := 4503599627370496

/-- The bit of the sign, `2^63`. -/
def signBit : Nat := 9223372036854775808

namespace Magnitude

/-- Four times the numerator of the number, over `denominator`. -/
def numerator (v : Magnitude) : Nat := 4 * v.mantissa * Nat.pow 2 v.exponent.toNat

/-- The denominator shared by the number and the ends of its interval. -/
def denominator (v : Magnitude) : Nat := 4 * Nat.pow 2 (-v.exponent).toNat

/-- The numerator of the lower end of the interval: half a step below the number, a quarter where
the steps below are half as wide. -/
def lowerEnd (v : Magnitude) : Nat :=
  let quarter := Nat.pow 2 v.exponent.toNat
  if v.mantissa = leadingBit ∧ v.exponent > -1074 then v.numerator - quarter
  else v.numerator - 2 * quarter

/-- The numerator of the upper end of the interval. -/
def upperEnd (v : Magnitude) : Nat := v.numerator + 2 * Nat.pow 2 v.exponent.toNat

/-- Whether `c · 10^scale` rounds to the number. The ends belong to the interval of an even
mantissa. -/
def owns (v : Magnitude) (c : Nat) (scale : Int) : Bool :=
  let point := c * Nat.pow 10 scale.toNat * v.denominator
  let stretch := Nat.pow 10 (-scale).toNat
  if v.mantissa % 2 = 0 then v.lowerEnd * stretch ≤ point && point ≤ v.upperEnd * stretch
  else v.lowerEnd * stretch < point && point < v.upperEnd * stretch

/-- The multiple of `10^scale` that stands for the number, if one does: the nearer of its two
neighbours on the grid that round to it. -/
def onGrid (v : Magnitude) (tie : TieRule) (scale : Int) : Option Nat :=
  let value := v.numerator * Nat.pow 10 (-scale).toNat
  let step := v.denominator * Nat.pow 10 scale.toNat
  let below := value / step
  let above := below + 1
  match 0 < below && v.owns below scale, v.owns above scale with
  | false, false => none
  | true, false => some below
  | false, true => some above
  | true, true =>
    if 2 * value < (below + above) * step then some below
    else if 2 * value > (below + above) * step then some above
    else match tie with
      | .up => some above
      | .toEven => some (if below % 2 = 0 then below else above)

/-- The decimal exponent of the number: the place of its first digit. -/
def leading (v : Magnitude) : Int :=
  if v.denominator ≤ v.numerator then
    ((Nat.toDigits 10 (v.numerator / v.denominator)).length - 1 : Nat)
  else
    -((Nat.toDigits 10 (v.denominator / v.numerator)).length : Nat)

/-- Tries ever finer grids, starting with the multiples of `10^scale`. -/
def search (v : Magnitude) (tie : TieRule) : Nat → Int → Digits
  | 0, scale => Digits.ofScaled 0 scale
  | tries + 1, scale =>
    match v.onGrid tie scale with
    | some c => Digits.ofScaled c scale
    | none => v.search tie tries (scale - 1)

/-- The shortest digits that round to the number. Seventeen always suffice; one more grid is
tried for numbers next to a power of ten. -/
def shortest (v : Magnitude) (tie : TieRule) : Digits :=
  v.search tie 19 (v.leading + 1)

end Magnitude

/-- A floating-point number taken apart. -/
inductive Reading
  | zero (negative : Bool)
  | finite (negative : Bool) (magnitude : Magnitude)
  | infinite (negative : Bool)
  | notANumber
deriving DecidableEq, Repr

/-- Takes apart the 64 bits of a floating-point number: one for the sign, eleven for the exponent
and fifty-two for the mantissa. -/
def Reading.ofBits (bits : Nat) : Reading :=
  let negative := decide (signBit ≤ bits)
  let exponent : Nat := bits / leadingBit % 2048
  let fraction : Nat := bits % leadingBit
  if exponent = 2047 then
    if fraction = 0 then .infinite negative else .notANumber
  else if exponent = 0 then
    if fraction = 0 then .zero negative else .finite negative ⟨fraction, -1074⟩
  else .finite negative ⟨leadingBit + fraction, (exponent : Int) - 1075⟩

/-- The parts of a floating-point number. -/
def reading (x : Float) : Reading := Reading.ofBits x.toBits.toNat

end PagePilot.Decimal
