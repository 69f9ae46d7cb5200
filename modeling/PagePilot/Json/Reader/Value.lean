import PagePilot.Json.Reader.Token

/-!
# Whole JSON values

Reading a value of any kind from the front of a text, and skipping one without looking into it.

## Main definitions

- `readValue` - a value, nested no deeper than allowed
- `skipValue` - the rest of the text after a value of any depth and with numbers of any size
- `finish` - nothing but blanks may follow
- `Json.parse` - a text that is one value

## Design notes

Lists and objects share their punctuation: `readItems` and `readMembers` take the reader of an
item as an argument, so that nesting is recursion on the depth and length is recursion on the
fuel, which is the length of the text.
-/

namespace PagePilot.Json

/-- How deep brackets and braces may be nested in a text. -/
def deepest : Nat := 127

/-- Reads up to the next item of a list, or past the closing bracket; `first` before the first
item. -/
def readItemStart (first : Bool) (text : List Char) : Except Misread (Bool × List Char) :=
  match skipSpace text, first with
  | [], _ => .error (.within [] .endInList)
  | ']' :: rest, _ => .ok (false, rest)
  | text, true => .ok (true, text)
  | ',' :: rest, false =>
    match skipSpace rest with
    | [] => .error (.within [] .endInValue)
    | ']' :: rest => .error (.within (']' :: rest) .trailingComma)
    | text => .ok (true, text)
  | text, false => .error (.within text .expectedListCommaOrEnd)

/-- Reads the items of a list up to its closing bracket. -/
def readItems (readItem : Reader α) : (fuel : Nat) → (first : Bool) → Reader (List α)
  | 0, _, text => .error (.before text .endInList)
  | fuel + 1, first, text => do
    let (more, rest) ← readItemStart first text
    if more then
      let (item, rest) ← readItem rest
      let (items, rest) ← readItems readItem fuel false rest
      .ok (item :: items, rest)
    else .ok ([], rest)

/-- Reads the colon between a key and its value. -/
def readColon (text : List Char) : Except Misread (List Char) :=
  match skipSpace text with
  | [] => .error (.within [] .endInObject)
  | ':' :: rest => .ok rest
  | text => .error (.within text .expectedColon)

/-- Reads up to the opening quote of the next key, or past the closing brace. -/
def readKeyStart (first : Bool) (text : List Char) : Except Misread (Bool × List Char) :=
  match skipSpace text, first with
  | [], _ => .error (.within [] .endInObject)
  | '\x7d' :: rest, _ => .ok (false, rest)
  | '"' :: rest, true => .ok (true, rest)
  | text, true => .error (.within text .keyMustBeText)
  | ',' :: rest, false =>
    match skipSpace rest with
    | [] => .error (.within [] .endInValue)
    | '"' :: rest => .ok (true, rest)
    | '\x7d' :: rest => .error (.within ('\x7d' :: rest) .trailingComma)
    | text => .error (.within text .keyMustBeText)
  | text, false => .error (.within text .expectedObjectCommaOrEnd)

/-- Reads the members of an object up to its closing brace, as they are written. -/
def readMembers (readItem : Reader α) : (fuel : Nat) → (first : Bool) → Reader (List (String × α))
  | 0, _, text => .error (.before text .endInObject)
  | fuel + 1, first, text => do
    let (more, rest) ← readKeyStart first text
    if more then
      let (key, rest) ← readText rest
      let rest ← readColon rest
      let (value, rest) ← readItem rest
      let (members, rest) ← readMembers readItem fuel false rest
      .ok ((key, value) :: members, rest)
    else .ok ([], rest)

/-- Reads a list or an object, after its opening bracket or brace. -/
def readNested (readItem : Reader Json) (opening : Char) : Reader Json := fun text => do
  if opening = '[' then
    let (items, rest) ← readItems readItem (text.length + 1) true text
    .ok (.arr items, rest)
  else
    let (members, rest) ← readMembers readItem (text.length + 1) true text
    .ok (.obj (sortMembers members), rest)

/-- Reads a value that is no list and no object. -/
def readScalar : Reader Json
  | [] => .error (.within [] .endInValue)
  | 'n' :: rest => do .ok (.null, ← readLetters ['u', 'l', 'l'] rest)
  | 't' :: rest => do .ok (.bool true, ← readLetters ['r', 'u', 'e'] rest)
  | 'f' :: rest => do .ok (.bool false, ← readLetters ['a', 'l', 's', 'e'] rest)
  | '"' :: rest => do
    let (s, rest) ← readText rest
    .ok (.str s, rest)
  | '-' :: rest => do
    let (n, rest) ← readNumber true rest
    .ok (.num n, rest)
  | c :: rest =>
    if c.isDigit then do
      let (n, rest) ← readNumber false (c :: rest)
      .ok (.num n, rest)
    else .error (.within (c :: rest) .expectedValue)

/-- Whether a character opens a list or an object. -/
def isOpening (c : Char) : Bool := c = '[' || c = '\x7b'

/-- Reads a value in which brackets and braces are nested at most `depth` deep. The members of an
object come out in ascending order of their keys; of several with one key the last counts. -/
def readValue : (depth : Nat) → Reader Json
  | depth, text =>
    match skipSpace text with
    | [] => .error (.within [] .endInValue)
    | c :: rest =>
      if isOpening c then
        match depth with
        | 0 => .error (.within (c :: rest) .tooDeep)
        | depth + 1 => readNested (readValue depth) c rest
      else readScalar (c :: rest)

/-- Skips the digits of a number's exponent, after its `e`. -/
def skipExponent (text : List Char) : Except Misread (List Char) :=
  let unsigned := match text with
    | '+' :: rest => rest
    | '-' :: rest => rest
    | _ => text
  match unsigned with
  | [] => .error (.before [] .invalidNumber)
  | c :: rest =>
    if c.isDigit then .ok (rest.dropWhile Char.isDigit)
    else .error (.within (c :: rest) .invalidNumber)

/-- Skips an exponent if there is one. -/
def skipTail : List Char → Except Misread (List Char)
  | 'e' :: rest => skipExponent rest
  | 'E' :: rest => skipExponent rest
  | text => .ok text

/-- Skips a fraction, after its point, and the exponent behind it. -/
def skipFraction (text : List Char) : Except Misread (List Char) :=
  match spanDigits text with
  | ([], _) => .error (.within text .invalidNumber)
  | (_ :: _, rest) => skipTail rest

/-- Skips what may follow the whole part of a number. -/
def skipPlaces : List Char → Except Misread (List Char)
  | '.' :: rest => skipFraction rest
  | text => skipTail text

/-- Skips a number, after its sign. -/
def skipNumber : List Char → Except Misread (List Char)
  | [] => .error (.before [] .invalidNumber)
  | '0' :: rest =>
    match rest with
    | c :: _ => if c.isDigit then .error (.within rest .invalidNumber) else skipPlaces rest
    | [] => .ok []
  | c :: rest =>
    if c.isDigit then skipPlaces (rest.dropWhile Char.isDigit)
    else .error (.within (c :: rest) .invalidNumber)

/-- Skips an escape, after its backslash. A numeric one only needs its four digits. -/
def skipEscape : List Char → Except Misread (List Char)
  | 'u' :: rest => do
    let (_, rest) ← readUnit rest
    .ok rest
  | text => do
    let (_, rest) ← readEscape text
    .ok rest

/-- Skips a text, after its opening quote. -/
def skipText : (fuel : Nat) → List Char → Except Misread (List Char)
  | 0, text => .error (.before text .endInText)
  | _ + 1, [] => .error (.before [] .endInText)
  | _ + 1, '"' :: rest => .ok rest
  | fuel + 1, '\\' :: rest => do skipText fuel (← skipEscape rest)
  | fuel + 1, c :: rest =>
    if c.toNat < 0x20 then .error (.before (c :: rest) .controlCharacter) else skipText fuel rest

/-- Skips the items of a list; `first` directly after its opening bracket. -/
def skipItems (skipItem : List Char → Except Misread (List Char)) :
    (fuel : Nat) → (first : Bool) → List Char → Except Misread (List Char)
  | 0, _, text => .error (.before text .endInList)
  | fuel + 1, first, text =>
    match skipSpace text, first with
    | [], _ => .error (.within [] .endInList)
    | ']' :: rest, _ => .ok rest
    | text, true => do skipItems skipItem fuel false (← skipItem text)
    | ',' :: rest, false => do skipItems skipItem fuel false (← skipItem rest)
    | text, false => .error (.within text .expectedListCommaOrEnd)

/-- Skips a key, its colon and its value. -/
def skipMember (skipItem : List Char → Except Misread (List Char)) (text : List Char) :
    Except Misread (List Char) :=
  match skipSpace text with
  | [] => .error (.within [] .endInObject)
  | '"' :: rest => do skipItem (← readColon (← skipText (rest.length + 1) rest))
  | text => .error (.within text .keyMustBeText)

/-- Skips the members of an object; `first` directly after its opening brace. -/
def skipMembers (skipItem : List Char → Except Misread (List Char)) :
    (fuel : Nat) → (first : Bool) → List Char → Except Misread (List Char)
  | 0, _, text => .error (.before text .endInObject)
  | fuel + 1, first, text =>
    match skipSpace text, first with
    | [], _ => .error (.within [] .endInObject)
    | '\x7d' :: rest, _ => .ok rest
    | text, true => do skipMembers skipItem fuel false (← skipMember skipItem text)
    | ',' :: rest, false => do skipMembers skipItem fuel false (← skipMember skipItem rest)
    | text, false => .error (.within text .expectedObjectCommaOrEnd)

/-- Skips a value that is no list and no object. -/
def skipScalar : List Char → Except Misread (List Char)
  | [] => .error (.within [] .endInValue)
  | 'n' :: rest => readLetters ['u', 'l', 'l'] rest
  | 't' :: rest => readLetters ['r', 'u', 'e'] rest
  | 'f' :: rest => readLetters ['a', 'l', 's', 'e'] rest
  | '"' :: rest => skipText (rest.length + 1) rest
  | '-' :: rest => skipNumber rest
  | c :: rest =>
    if c.isDigit then skipNumber (c :: rest) else .error (.within (c :: rest) .expectedValue)

/-- Skips a value. Every level of nesting takes a character, so that `fuel` beyond the length of
the text is never used up. -/
def skipNested : (fuel : Nat) → List Char → Except Misread (List Char)
  | fuel, text =>
    match skipSpace text with
    | [] => .error (.within [] .endInValue)
    | c :: rest =>
      if isOpening c then
        match fuel with
        | 0 => .error (.before (c :: rest) .tooDeep)
        | fuel + 1 =>
          if c = '[' then skipItems (skipNested fuel) (rest.length + 1) true rest
          else skipMembers (skipNested fuel) (rest.length + 1) true rest
      else skipScalar (c :: rest)

/-- The rest of a text after its first value, which may be nested arbitrarily deep and may hold
numbers of any size. -/
def skipValue (text : List Char) : Except Misread (List Char) := skipNested text.length text

/-- Ends the reading of a text: only blanks may be left. -/
def finish (read : α × List Char) : Except Misread α :=
  match skipSpace read.2 with
  | [] => .ok read.1
  | text => .error (.within text .trailingCharacters)

/-- The value that a whole text is. -/
def parse (text : String) : Except Misread Json := do
  finish (← readValue deepest text.toList)

end PagePilot.Json
