import PagePilot.Decimal.Layout
import PagePilot.Json.Basic

/-!
# JSON text

The compact text of a value: no blanks, members in their order, and only the characters escaped
that have to be.

## Main definitions

- `Json.print`, `Json.text` - the text of a value, as characters and as a string
- `Json.escapeChar`, `Json.printText` - texts between double quotes
- `Json.printNumber` - integers in decimal digits; floating-point numbers with a fraction or an
  exponent, so that they stay apart from integers
-/

namespace PagePilot.Json

/-- The lowercase hexadecimal digit of a number below sixteen. -/
def hexDigit (n : Nat) : Char := Nat.digitChar n

/-- A character inside a text. Quotes, backslashes and the controls below the space are escaped;
five controls have short names. -/
def escapeChar (c : Char) : List Char :=
  if c = '"' then ['\\', '"']
  else if c = '\\' then ['\\', '\\']
  else if c = '\x08' then ['\\', 'b']
  else if c = '\x0c' then ['\\', 'f']
  else if c = '\n' then ['\\', 'n']
  else if c = '\r' then ['\\', 'r']
  else if c = '\t' then ['\\', 't']
  else if c.toNat < 0x20 then
    ['\\', 'u', '0', '0', hexDigit (c.toNat / 16), hexDigit (c.toNat % 16)]
  else [c]

/-- The characters of a text between double quotes. -/
def printText (s : String) : List Char :=
  '"' :: s.toList.flatMap escapeChar ++ ['"']

/-- An integer in decimal digits. -/
def printInt : Int → List Char
  | .ofNat n => Nat.toDigits 10 n
  | .negSucc n => '-' :: Nat.toDigits 10 (n + 1)

/-- A decimal number: positional with a fraction when the place of its first digit lies between
`10^-5` and `10^15`, else with a signed exponent. -/
def printDigits (d : Decimal.Digits) : List Char :=
  if -5 ≤ d.exponent ∧ d.exponent ≤ 15 then
    d.wholePart ++ '.' :: (if d.fraction.isEmpty then ['0'] else d.fraction)
  else d.scientific

/-- A floating-point number in its shortest digits; of two equally near ones the even. What is no
number has no JSON text but `null`. -/
def printFloat (x : Float) : List Char :=
  match Decimal.reading x with
  | .zero negative => Decimal.sign negative ++ ['0', '.', '0']
  | .finite negative v => Decimal.sign negative ++ printDigits (v.shortest .toEven)
  | .infinite _ => ['n', 'u', 'l', 'l']
  | .notANumber => ['n', 'u', 'l', 'l']

/-- The text of a number. -/
def printNumber : Number → List Char
  | .int i => printInt i
  | .float x => printFloat x

mutual

/-- The compact text of a value. -/
def print : Json → List Char
  | .null => ['n', 'u', 'l', 'l']
  | .bool true => ['t', 'r', 'u', 'e']
  | .bool false => ['f', 'a', 'l', 's', 'e']
  | .num n => printNumber n
  | .str s => printText s
  | .arr [] => ['[', ']']
  | .arr (item :: items) => '[' :: print item ++ printItems items
  | .obj [] => ['\x7b', '\x7d']
  | .obj ((key, value) :: members) =>
    '\x7b' :: printText key ++ ':' :: print value ++ printMembers members

/-- The items that follow the first one, up to the closing bracket. -/
def printItems : List Json → List Char
  | [] => [']']
  | item :: items => ',' :: print item ++ printItems items

/-- The members that follow the first one, up to the closing brace. -/
def printMembers : List (String × Json) → List Char
  | [] => ['\x7d']
  | (key, value) :: members =>
    ',' :: printText key ++ ':' :: print value ++ printMembers members

end

/-- The compact text of a value. -/
def text (value : Json) : String := String.ofList value.print

end PagePilot.Json
