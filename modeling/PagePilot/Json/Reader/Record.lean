import PagePilot.Json.Reader.Value

/-!
# Records in JSON text

A record is read directly from a text, member by member, so that the first fault in the text is
the one that is reported. It is written as an object, in which unknown keys are skipped, or as a
list of its values in the order of its fields.

## Main definitions

- `readUnsigned`, `readTruth`, `readString`, `readOptional` - members of a fixed kind
- `Field`, `Record` - what a record consists of
- `Record.read`, `Record.parse` - a record at the front of a text, and as a whole text
-/

namespace PagePilot.Json

/-- A value of another kind stands at the front of the text. A scalar is read before it is
refused, a list or an object is not. -/
def refuse (expected : String) : Reader α
  | [] => .error (.within [] .endInValue)
  | c :: rest =>
    if c = '[' then .error (.before (c :: rest) (.wrongType .sequence expected))
    else if c = '\x7b' then .error (.before (c :: rest) (.wrongType .map expected))
    else do
      let (value, rest) ← readScalar (c :: rest)
      .error (.before rest (.wrongType (.ofJson value) expected))

/-- Reads a scalar and looks at it in one way. -/
def readScalarAs (expected : String) (view : Json → Except Reason α) : Reader α := fun text =>
  match skipSpace text with
  | [] => .error (.within [] .endInValue)
  | c :: rest =>
    if isOpening c then refuse expected (c :: rest)
    else do
      let (value, rest) ← readScalar (c :: rest)
      match view value with
      | .ok a => .ok (a, rest)
      | .error reason => .error (.before rest reason)

/-- The value as a natural number below `bound`. -/
def viewUnsigned (bound : Nat) (expected : String) : Json → Except Reason Nat
  | .num (.int i) =>
    if 0 ≤ i ∧ i < bound then .ok i.toNat else .error (.outOfBounds (.integer i) expected)
  | value => .error (.wrongType (.ofJson value) expected)

/-- The value as a truth value. -/
def viewTruth : Json → Except Reason Bool
  | .bool b => .ok b
  | value => .error (.wrongType (.ofJson value) "a boolean")

/-- The value as a text. -/
def viewText (expected : String) : Json → Except Reason String
  | .str s => .ok s
  | value => .error (.wrongType (.ofJson value) expected)

/-- An integer of 64 bits without sign. -/
def readWord64 : Reader UInt64 := fun text => do
  let (n, rest) ← readScalarAs "u64" (viewUnsigned UInt64.size "u64") text
  .ok (UInt64.ofNat n, rest)

/-- An integer of 32 bits without sign. -/
def readWord32 : Reader UInt32 := fun text => do
  let (n, rest) ← readScalarAs "u32" (viewUnsigned UInt32.size "u32") text
  .ok (UInt32.ofNat n, rest)

/-- A truth value. -/
def readTruth : Reader Bool := readScalarAs "a boolean" viewTruth

/-- A text; `expected` says what it stands for. -/
def readString (expected : String) : Reader String := readScalarAs expected (viewText expected)

/-- A value that may be `null`. -/
def readOptional (read : Reader α) : Reader (Option α) := fun text =>
  match skipSpace text with
  | 'n' :: rest => do .ok (none, ← readLetters ['u', 'l', 'l'] rest)
  | text => do
    let (value, rest) ← read text
    .ok (some value, rest)

/-- A field of a record: its key, and how its value changes the record. In the list form the
values of the last fields may be left out if each of them `hasDefault`. -/
structure Field (ρ : Type) where
  name : String
  read : Reader (ρ → ρ)
  hasDefault : Bool

/-- A field whose value is put into the record by `put`. -/
def Field.of (name : String) (read : Reader α) (put : α → ρ → ρ) (hasDefault : Bool := true) :
    Field ρ where
  name := name
  read := fun text => do
    let (value, rest) ← read text
    .ok (put value, rest)
  hasDefault := hasDefault

/-- What a record is called and which fields it has. -/
structure Record (ρ : Type) where
  title : String
  fields : List (Field ρ)

namespace Record

variable {ρ : Type}

/-- The field with the given key. -/
def field? (record : Record ρ) (key : String) : Option (Field ρ) :=
  record.fields.find? fun field => field.name == key

/-- Reads the members of a record up to the closing brace and puts them into `value`. The keys in
`seen` have been read. -/
def readMembers (record : Record ρ) :
    (fuel : Nat) → (first : Bool) → (seen : List String) → (value : ρ) → Reader ρ
  | 0, _, _, _, text => .error (.before text .endInObject)
  | fuel + 1, first, seen, value, text => do
    let (more, rest) ← readKeyStart first text
    if more then
      let (key, rest) ← readText rest
      match record.field? key with
      | none => record.readMembers fuel false seen value (← skipValue (← readColon rest))
      | some field =>
        if seen.contains key then .error (.before (afterBrace rest) (.repeatedMember key))
        else
          let (put, rest) ← field.read (← readColon rest)
          record.readMembers fuel false (key :: seen) (put value) rest
    else .ok (value, rest)
where
  /-- A repeated key is noticed before its value; the object may still end there. -/
  afterBrace (text : List Char) : List Char :=
    match skipSpace text with
    | '\x7d' :: rest => rest
    | text => text

/-- The end of the list form. -/
def readListEnd (value : ρ) : Reader ρ := fun text =>
  match skipSpace text with
  | [] => .error (.within [] .endInList)
  | ']' :: rest => .ok (value, rest)
  | ',' :: rest =>
    match skipSpace rest with
    | ']' :: rest => .error (.within (']' :: rest) .trailingComma)
    | text => .error (.within text .trailingCharacters)
  | text => .error (.within text .trailingCharacters)

/-- What the list form of a record should hold. -/
def sizeText (record : Record ρ) : String :=
  record.title ++ " with " ++ toString record.fields.length ++ " elements"

/-- Reads the values of the given fields from a list, of whose fields `count` have been read. -/
def readValues (record : Record ρ) : List (Field ρ) → (count : Nat) → (value : ρ) → Reader ρ
  | [], _, value, text => readListEnd value text
  | field :: fields, count, value, text => do
    let (more, rest) ← readItemStart (count == 0) text
    if more then
      let (put, rest) ← field.read rest
      record.readValues fields (count + 1) (put value) rest
    else
      match (field :: fields).findIdx? fun field => !field.hasDefault with
      | none => .ok (value, rest)
      | some missing => .error (.before rest (.wrongLength (count + missing) record.sizeText))

/-- Reads a record whose fields start out as in `default`. -/
def read (record : Record ρ) (default : ρ) : Reader ρ := fun text =>
  match skipSpace text with
  | '\x7b' :: rest => record.readMembers (rest.length + 1) true [] default rest
  | '[' :: rest => record.readValues record.fields 0 default rest
  | text => refuse record.title text

/-- The record that a whole text is. -/
def parse (record : Record ρ) (default : ρ) (text : String) : Except Misread ρ := do
  finish (← record.read default text.toList)

end Record

end PagePilot.Json
