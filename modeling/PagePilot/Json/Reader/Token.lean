import PagePilot.Json.Reader.Misread

/-!
# Words, numbers and texts of JSON

The readers of the pieces of a JSON text that are no lists and no objects.

## Main definitions

- `skipSpace` - the rest of a text after its blanks
- `readLetters` - the remaining letters of `null`, `true` or `false`
- `readNumber` - a number, from its first digit or after its minus sign
- `readText` - a text, after its opening quote

## Design notes

A number is collected in a 64-bit significand. Digits that no longer fit are dropped and counted
in the exponent, and the value is the significand times or over one power of ten, rounded twice:
once for the significand, once for the product. Integers that fit are exact.
-/

namespace PagePilot.Json

/-- The four blanks that may stand between the pieces of a text. -/
def isSpace (c : Char) : Bool :=
  c = ' ' || c = '\n' || c = '\t' || c = '\r'

/-- The rest of the text after its blanks. -/
def skipSpace (text : List Char) : List Char := text.dropWhile isSpace

/-- Reads exactly the given letters. -/
def readLetters : List Char → List Char → Except Misread (List Char)
  | [], text => .ok text
  | _ :: _, [] => .error (.before [] .endInValue)
  | letter :: letters, c :: rest =>
    if c = letter then readLetters letters rest else .error (.within (c :: rest) .expectedWord)

/-- The value of a decimal digit. -/
def digitValue? (c : Char) : Option Nat :=
  if c.isDigit then some (c.toNat - 48) else none

/-- The value of a hexadecimal digit, in either case. -/
def hexValue? (c : Char) : Option Nat :=
  if c.isDigit then some (c.toNat - 48)
  else if 'a' ≤ c ∧ c ≤ 'f' then some (c.toNat - 87)
  else if 'A' ≤ c ∧ c ≤ 'F' then some (c.toNat - 55)
  else none

/-- The largest significand, `2^64 - 1`. -/
def largestWord : Nat := 18446744073709551615

/-- Appends digits to a significand as long as it fits a word. -/
def collect (significand : Nat) : List Char → Nat × List Char
  | [] => (significand, [])
  | c :: rest =>
    match digitValue? c with
    | none => (significand, c :: rest)
    | some digit =>
      if significand * 10 + digit ≤ largestWord then collect (significand * 10 + digit) rest
      else (significand, c :: rest)

/-- Splits off the digits at the front. -/
def spanDigits (text : List Char) : List Char × List Char := text.span Char.isDigit

/-- The power of ten with a natural exponent, as a floating-point number. -/
def powerOfTen (exponent : Nat) : Float := Float.ofScientific 1 false exponent

/-- The magnitude `significand · 10^exponent`; none if it is too large. Below `10^-308` the
division takes two steps. -/
def scale? (significand : Nat) (exponent : Int) : Option Float :=
  let value := (UInt64.ofNat significand).toFloat
  if exponent > 308 then
    if significand = 0 then some 0.0 else none
  else if 0 ≤ exponent then
    let scaled := value * powerOfTen exponent.toNat
    if scaled.isInf then none else some scaled
  else if -308 ≤ exponent then some (value / powerOfTen (-exponent).toNat)
  else if -616 ≤ exponent then some (value / powerOfTen 308 / powerOfTen (-exponent - 308).toNat)
  else some 0.0

/-- The number with the given sign, significand and exponent. -/
def scaled (negative : Bool) (significand : Nat) (exponent : Int) : Reader Number := fun rest =>
  match scale? significand exponent with
  | none => .error (.before rest .numberOutOfRange)
  | some x => .ok (.float (if negative then -x else x), rest)

/-- The largest power that an exponent may name before it counts as out of bounds,
`2^31 - 1`. -/
def largestExponent : Nat := 2147483647

/-- The digits of an exponent, after its sign. -/
def readPower (negative : Bool) (significand : Nat) (exponent : Int) (raises : Bool) :
    Reader Number
  | [] => .error (.before [] .endInValue)
  | c :: rest =>
    if !c.isDigit then .error (.within (c :: rest) .invalidNumber)
    else
      let (power, unread, fits) := go (c.toNat - 48) rest
      if fits then
        let total := if raises then exponent + power else exponent - power
        scaled negative significand total unread
      else if significand ≠ 0 ∧ raises then .error (.before unread .numberOutOfRange)
      else .ok (.float (if negative then -0.0 else 0.0), unread.dropWhile Char.isDigit)
where
  /-- Appends digits to the power; stops behind the first one that is too much. -/
  go (power : Nat) : List Char → Nat × List Char × Bool
    | [] => (power, [], true)
    | c :: rest =>
      match digitValue? c with
      | none => (power, c :: rest, true)
      | some digit =>
        if power * 10 + digit ≤ largestExponent then go (power * 10 + digit) rest
        else (power, rest, false)

/-- The exponent of a number, after its `e`. -/
def readExponent (negative : Bool) (significand : Nat) (exponent : Int) : Reader Number
  | '+' :: rest => readPower negative significand exponent true rest
  | '-' :: rest => readPower negative significand exponent false rest
  | text => readPower negative significand exponent true text

/-- What follows the digits of a fraction: an exponent or the end of the number. -/
def finishFraction (negative : Bool) (significand : Nat) (exponent : Int) : Reader Number
  | 'e' :: rest => readExponent negative significand exponent rest
  | 'E' :: rest => readExponent negative significand exponent rest
  | text => scaled negative significand exponent text

/-- The fraction of a number, after its point. Digits beyond the significand are dropped. -/
def readFraction (negative : Bool) (significand : Nat) (exponent : Int) : Reader Number
  | [] => .error (.before [] .endInValue)
  | c :: rest =>
    if !c.isDigit then .error (.within (c :: rest) .invalidNumber)
    else
      let (collected, unread) := collect significand (c :: rest)
      let places := (rest.length + 1) - unread.length
      finishFraction negative collected (exponent - places) (unread.dropWhile Char.isDigit)

/-- The integer with the given sign and magnitude; minus zero and integers below `-2^63` are
floating-point numbers. -/
def wholeNumber (negative : Bool) (magnitude : Nat) : Number :=
  if !negative then .int magnitude
  else if 0 < magnitude ∧ magnitude ≤ 9223372036854775808 then .int (-magnitude)
  else .float (-(UInt64.ofNat magnitude).toFloat)

/-- What follows the digits of the whole part, of which `dropped` did not fit. -/
def finishWhole (negative : Bool) (significand dropped : Nat) : Reader Number
  | '.' :: rest => readFraction negative significand dropped rest
  | 'e' :: rest => readExponent negative significand dropped rest
  | 'E' :: rest => readExponent negative significand dropped rest
  | text =>
    if dropped = 0 then .ok (wholeNumber negative significand, text)
    else scaled negative significand dropped text

/-- A number, after its sign. A leading zero stands alone. -/
def readNumber (negative : Bool) : Reader Number
  | [] => .error (.before [] .endInValue)
  | '0' :: rest =>
    match rest with
    | c :: _ =>
      if c.isDigit then .error (.within rest .invalidNumber) else finishWhole negative 0 0 rest
    | [] => finishWhole negative 0 0 []
  | c :: rest =>
    if c.isDigit then
      let (significand, unread) := collect 0 (c :: rest)
      let (dropped, unread) := spanDigits unread
      finishWhole negative significand dropped.length unread
    else .error (.within (c :: rest) .invalidNumber)

/-- The four hexadecimal digits of an escape. -/
def readUnit (text : List Char) : Except Misread (Nat × List Char) :=
  let refused := Except.error <|
    if byteCount text < 4 then Misread.before [] .endInText
    else ⟨.invalidEscape, byteCount text - 4⟩
  match text with
  | a :: b :: c :: d :: rest =>
    match hexValue? a, hexValue? b, hexValue? c, hexValue? d with
    | some a, some b, some c, some d => .ok (((a * 16 + b) * 16 + c) * 16 + d, rest)
    | _, _, _, _ => refused
  | _ => refused

/-- The second half of a pair of escapes, after the first one, `high`. -/
def readSecondUnit (high : Nat) : Reader Char
  | [] => .error (.before [] .endInText)
  | '\\' :: [] => .error (.before [] .endInText)
  | '\\' :: 'u' :: rest => do
    let (low, rest) ← readUnit rest
    if 0xDC00 ≤ low ∧ low ≤ 0xDFFF then
      .ok (Char.ofNat ((high - 0xD800) * 0x400 + (low - 0xDC00) + 0x10000), rest)
    else .error (.before rest .loneSurrogate)
  | '\\' :: c :: rest => .error (.within (c :: rest) .unfinishedSurrogate)
  | c :: rest => .error (.within (c :: rest) .unfinishedSurrogate)

/-- The character of a numeric escape, after its `u`. Characters beyond the first 65536 take a
pair of escapes. -/
def readCodePoint : Reader Char := fun text => do
  let (unit, rest) ← readUnit text
  if 0xDC00 ≤ unit ∧ unit ≤ 0xDFFF then .error (.before rest .loneSurrogate)
  else if 0xD800 ≤ unit ∧ unit ≤ 0xDBFF then readSecondUnit unit rest
  else .ok (Char.ofNat unit, rest)

/-- The character of an escape, after its backslash. -/
def readEscape : Reader Char
  | [] => .error (.before [] .endInText)
  | '"' :: rest => .ok ('"', rest)
  | '\\' :: rest => .ok ('\\', rest)
  | '/' :: rest => .ok ('/', rest)
  | 'b' :: rest => .ok ('\x08', rest)
  | 'f' :: rest => .ok ('\x0c', rest)
  | 'n' :: rest => .ok ('\n', rest)
  | 'r' :: rest => .ok ('\r', rest)
  | 't' :: rest => .ok ('\t', rest)
  | 'u' :: rest => readCodePoint rest
  | c :: rest => .error (.within (c :: rest) .invalidEscape)

/-- The characters of a text up to its closing quote, in reverse before `read`. Every round takes
a character, so that `fuel` beyond the length of the text is never used up. -/
def readChars : (fuel : Nat) → (read : List Char) → Reader (List Char)
  | 0, _, text => .error (.before text .endInText)
  | _ + 1, _, [] => .error (.before [] .endInText)
  | _ + 1, read, '"' :: rest => .ok (read.reverse, rest)
  | fuel + 1, read, '\\' :: rest => do
    let (c, rest) ← readEscape rest
    readChars fuel (c :: read) rest
  | fuel + 1, read, c :: rest =>
    if c.toNat < 0x20 then .error (.within (c :: rest) .controlCharacter)
    else readChars fuel (c :: read) rest

/-- A text, after its opening quote. -/
def readText : Reader String := fun text => do
  let (read, rest) ← readChars (text.length + 1) [] text
  .ok (String.ofList read, rest)

end PagePilot.Json
