import PagePilot.Json.Printer
import PagePilot.Text.Quoted

/-!
# What is wrong with a JSON text

A text that cannot be read, or does not hold what was asked for, is answered with one reason and
the place where it was noticed.

## Main definitions

- `Json.Reason`, `Json.Reason.message` - the reasons and their wording
- `Json.Misread` - a reason together with the number of bytes then unread
- `Json.Misread.message` - the reason with its line and column
-/

namespace PagePilot.Json

/-- What was found in place of the expected kind of value. -/
inductive Unexpected
  | null
  | bool (value : Bool)
  | integer (value : Int)
  | float (value : Float)
  | text (value : String)
  | sequence
  | map

/-- The kind of a value, and the value itself where it is a scalar. -/
def Unexpected.message : Unexpected → String
  | .null => "null"
  | .bool b => "boolean `" ++ (if b then "true" else "false") ++ "`"
  | .integer i => "integer `" ++ String.ofList (printInt i) ++ "`"
  | .float x => "floating point `" ++ String.ofList (printFloat x) ++ "`"
  | .text s => "string " ++ Text.quoted s
  | .sequence => "sequence"
  | .map => "map"

/-- How a value looks to a reader that expected another kind. -/
def Unexpected.ofJson : Json → Unexpected
  | .null => .null
  | .bool b => .bool b
  | .num (.int i) => .integer i
  | .num (.float x) => .float x
  | .str s => .text s
  | .arr _ => .sequence
  | .obj _ => .map

/-- Why a text or a value was refused. -/
inductive Reason
  | endInValue
  | endInText
  | endInList
  | endInObject
  | expectedColon
  | expectedListCommaOrEnd
  | expectedObjectCommaOrEnd
  | expectedWord
  | expectedValue
  | keyMustBeText
  | trailingComma
  | trailingCharacters
  | invalidNumber
  | numberOutOfRange
  | invalidEscape
  | loneSurrogate
  | unfinishedSurrogate
  | controlCharacter
  | tooDeep
  | wrongType (found : Unexpected) (expected : String)
  | outOfBounds (found : Unexpected) (expected : String)
  | wrongLength (length : Nat) (expected : String)
  | missingMember (name : String)
  | repeatedMember (name : String)

/-- The wording of a reason. -/
def Reason.message : Reason → String
  | .endInValue => "EOF while parsing a value"
  | .endInText => "EOF while parsing a string"
  | .endInList => "EOF while parsing a list"
  | .endInObject => "EOF while parsing an object"
  | .expectedColon => "expected `:`"
  | .expectedListCommaOrEnd => "expected `,` or `]`"
  | .expectedObjectCommaOrEnd => "expected `,` or `\x7d`"
  | .expectedWord => "expected ident"
  | .expectedValue => "expected value"
  | .keyMustBeText => "key must be a string"
  | .trailingComma => "trailing comma"
  | .trailingCharacters => "trailing characters"
  | .invalidNumber => "invalid number"
  | .numberOutOfRange => "number out of range"
  | .invalidEscape => "invalid escape"
  | .loneSurrogate => "lone leading surrogate in hex escape"
  | .unfinishedSurrogate => "unexpected end of hex escape"
  | .controlCharacter => "control character (\\u0000-\\u001F) found while parsing a string"
  | .tooDeep => "recursion limit exceeded"
  | .wrongType found expected => "invalid type: " ++ found.message ++ ", expected " ++ expected
  | .outOfBounds found expected => "invalid value: " ++ found.message ++ ", expected " ++ expected
  | .wrongLength length expected =>
    "invalid length " ++ toString length ++ ", expected " ++ expected
  | .missingMember name => "missing field `" ++ name ++ "`"
  | .repeatedMember name => "duplicate field `" ++ name ++ "`"

/-- A reason, and how many bytes of the text lay beyond the place where it was noticed. -/
structure Misread where
  reason : Reason
  bytesLeft : Nat

/-- The size of a text in bytes of its UTF-8 form. -/
def byteCount : List Char → Nat
  | [] => 0
  | c :: rest => c.utf8Size + byteCount rest

/-- A fault noticed in front of the unread text. -/
def Misread.before (unread : List Char) (reason : Reason) : Misread :=
  ⟨reason, byteCount unread⟩

/-- A fault noticed one byte into the unread text, or at its end if there is none left. -/
def Misread.within (unread : List Char) (reason : Reason) : Misread :=
  ⟨reason, byteCount unread - 1⟩

/-- The line and the column after the first `offset` bytes of a text; lines count from one,
columns in bytes since the start of the line. -/
def lineAndColumn (text : List Char) (offset : Nat) : Nat × Nat :=
  go text offset 1 0
where
  /-- Walks on from the given line and column. -/
  go : List Char → Nat → Nat → Nat → Nat × Nat
    | [], _, line, column => (line, column)
    | c :: rest, left, line, column =>
      if left < c.utf8Size then (line, column + left)
      else if c = '\n' then go rest (left - 1) (line + 1) 0
      else go rest (left - c.utf8Size) line (column + c.utf8Size)

/-- The reason with the place in `text` where it was noticed. -/
def Misread.message (fault : Misread) (text : List Char) : String :=
  let (line, column) := lineAndColumn text (byteCount text - fault.bytesLeft)
  fault.reason.message ++ " at line " ++ toString line ++ " column " ++ toString column

/-- Reads a value of some type from the front of a text and gives the unread rest. -/
abbrev Reader (α : Type) := List Char → Except Misread (α × List Char)

end PagePilot.Json
