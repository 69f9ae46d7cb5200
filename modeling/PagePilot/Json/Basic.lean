/-!
# JSON values

Dynamic values: what page functions take and return, and what options are read from.

## Main definitions

- `Json`, `Json.Number` - values and numbers
- `Json.asNat?`, `Json.asBool?`, `Json.asText?` - strict views of a value
- `Json.isTruthy` - whether a page would take a value for true
- `Json.lookup`, `Json.putMember` - members of objects
-/

namespace PagePilot

/-- A number is an integer or a floating-point number; `3` and `3.0` differ. -/
inductive Json.Number
  | int (value : Int)
  | float (value : Float)

/-- A JSON value. The members of an object are kept in the order in which they are written. -/
inductive Json
  | null
  | bool (value : Bool)
  | num (value : Json.Number)
  | str (value : String)
  | arr (items : List Json)
  | obj (members : List (String × Json))

namespace Json

instance : Inhabited Json := ⟨.null⟩

/-- An integer value. -/
def int (value : Int) : Json := .num (.int value)

/-- A natural number as a value. -/
def nat (value : Nat) : Json := .num (.int value)

/-- The natural number that a value is; a floating-point number is none, whatever its value. -/
def asNat? : Json → Option Nat
  | .num (.int (.ofNat n)) => some n
  | _ => none

/-- The truth value that a value is. -/
def asBool? : Json → Option Bool
  | .bool b => some b
  | _ => none

/-- The text that a value is. -/
def asText? : Json → Option String
  | .str s => some s
  | _ => none

/-- Whether a value is `null`. -/
def isNull : Json → Bool
  | .null => true
  | _ => false

/-- The floating-point number nearest to an integer of at most 64 bits. -/
def floatOfInt : Int → Float
  | .ofNat n => (UInt64.ofNat n).toFloat
  | .negSucc n => -(UInt64.ofNat (n + 1)).toFloat

/-- The value of a number as a floating-point number. -/
def Number.toFloat : Number → Float
  | .int i => floatOfInt i
  | .float x => x

/-- A number is taken for false if it is zero, of either sign, as a floating-point number. -/
def Number.isTruthy (n : Number) : Bool := n.toFloat != 0.0

/-- Whether a page takes the value for true: all but `null`, `false`, zero and the empty text. -/
def isTruthy : Json → Bool
  | .null => false
  | .bool b => b
  | .num n => n.isTruthy
  | .str s => s != ""
  | .arr _ => true
  | .obj _ => true

/-- The value of the first member with the given key. -/
def lookup (key : String) : List (String × Json) → Option Json
  | [] => none
  | (k, v) :: rest => if k = key then some v else lookup key rest

/-- Puts a member into a list of members in ascending order of their keys. A member with the same
key is replaced. -/
def putMember (key : String) (value : Json) : List (String × Json) → List (String × Json)
  | [] => [(key, value)]
  | (k, v) :: rest =>
    if key < k then (key, value) :: (k, v) :: rest
    else if key = k then (key, value) :: rest
    else (k, v) :: putMember key value rest

/-- The members in ascending order of their keys; of several with one key the last counts. -/
def sortMembers (members : List (String × Json)) : List (String × Json) :=
  members.foldl (fun sorted (key, value) => putMember key value sorted) []

end Json

end PagePilot
