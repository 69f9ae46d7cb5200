import PagePilot.Decimal.Shortest

/-!
# Layout of decimal numbers

How the digits of a number are set out: with a point among them, or before a power of ten.

## Main definitions

- `Digits.wholePart`, `Digits.fraction` - the digits before and after the point
- `Digits.plain` - positional, without a fraction where there is none
- `Digits.scientific` - with a power of ten that has a sign
- `plainText` - the positional text of a floating-point number, of whatever size
-/

namespace PagePilot.Decimal

namespace Digits

/-- The digits before the point; a zero if there are none. -/
def wholePart (d : Digits) : List Char :=
  if d.exponent < 0 then ['0']
  else
    let places := d.exponent.toNat + 1
    d.digits.take places ++ List.replicate (places - d.digits.length) '0'

/-- The digits after the point. -/
def fraction (d : Digits) : List Char :=
  if d.exponent < 0 then List.replicate ((-d.exponent).toNat - 1) '0' ++ d.digits
  else d.digits.drop (d.exponent.toNat + 1)

/-- Positional digits; a number without fraction has no point. -/
def plain (d : Digits) : List Char :=
  match d.fraction with
  | [] => d.wholePart
  | places => d.wholePart ++ '.' :: places

/-- The digits with a point behind the first one, if there are more, and the power of ten with its
sign. -/
def scientific (d : Digits) : List Char :=
  let mark := if d.exponent < 0 then '-' else '+'
  let exponent := 'e' :: mark :: Nat.toDigits 10 d.exponent.natAbs
  match d.digits with
  | [] => '0' :: exponent
  | [digit] => digit :: exponent
  | digit :: digits => digit :: '.' :: digits ++ exponent

end Digits

/-- The sign of a number, written only if it is negative. -/
def sign : Bool → List Char
  | true => ['-']
  | false => []

/-- A floating-point number in positional digits, as many as identify it; zero keeps its sign, and
of two equally near decimals the larger is taken. -/
def plainText (x : Float) : String :=
  match reading x with
  | .zero negative => String.ofList (sign negative ++ ['0'])
  | .finite negative v => String.ofList (sign negative ++ (v.shortest .up).plain)
  | .infinite negative => String.ofList (sign negative) ++ "inf"
  | .notANumber => "NaN"

end PagePilot.Decimal
