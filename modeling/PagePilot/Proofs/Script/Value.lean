import PagePilot.Json.Printer
import PagePilot.Proofs.Json.Grammar

/-!
# Values of page functions

What a page function may give, whether a page takes it for true, and the text in which a page writes
it when it is asked for JSON. Not everything has such a text, and the text of some values is that of
another one. A page may also throw while it writes a value; the wrapper then has a text about this.

## Main definitions

- `Script.Value`, `Script.Value.isTruthy` - the values, and which of them a page takes for true
- `Script.Form`, `Script.Form.print` - what is left of a value in its text, and the text
- `Script.Value.form` - what is left of a value, if anything is, unless the page throws
- `Script.wrapped` - the text of an object with the value, or with what is thrown
- `Script.Value.survives` - the value has the truth of what is left of it
- `Script.Value.travels` - the value is written in a text that can be read

## Main statements

- `Script.Value.isTruthy_of_form` - what is left of a value has its truth if that survives
-/

namespace PagePilot.Script

/-- A value inside a page. Texts are lists of units of sixteen bits. -/
inductive Value
  | undefined
  | null
  | bool (value : Bool)
  | number (value : Float)
  | text (units : List UInt16)
  | list (items : List Value)
  /-- An object with its own members in their order. -/
  | object (members : List (List UInt16 × Value))
  | function
  | symbol
  /-- An object that is written as another value: what its `toJSON` gives, or the scalar in it. -/
  | standIn (value : Value)
  /-- A value at which the page throws when it writes it: a big integer, an object inside itself,
  one whose `toJSON` throws, or a member that throws. What is thrown has a text, or none. -/
  | unwritable (isTruthy : Bool) (thrown : Option (List UInt16))

/-- What is left of a value in its text. -/
inductive Form
  | null
  | bool (value : Bool)
  | number (value : Float)
  | text (units : List UInt16)
  | list (items : List Form)
  | object (members : List (List UInt16 × Form))

section Truth

/-- All objects are taken for true; of numbers those that are neither zero nor undefined. -/
def Value.isTruthy : Value → Bool
  | .undefined | .null => false
  | .bool b => b
  | .number x => match Decimal.reading x with
    | .finite _ _ | .infinite _ => true
    | .zero _ | .notANumber => false
  | .text units => !units.isEmpty
  | .list _ | .object _ | .function | .symbol | .standIn _ => true
  | .unwritable truthy _ => truthy

/-- A number without JSON text has been written as `null`. -/
def Form.isTruthy : Form → Bool
  | .null => false
  | .bool b => b
  | .number x => match Decimal.reading x with
    | .finite _ _ => true
    | .zero _ | .infinite _ | .notANumber => false
  | .text units => !units.isEmpty
  | .list _ | .object _ => true

end Truth

section Forms

mutual

/-- What is left of a value; nothing of functions, symbols and what is undefined. The page writes
one part after the other and throws at the first that is unwritable. -/
def Value.form : Value → Except (Option (List UInt16)) (Option Form)
  | .undefined | .function | .symbol => .ok none
  | .null => .ok (some .null)
  | .bool b => .ok (some (.bool b))
  | .number x => .ok (some (.number x))
  | .text units => .ok (some (.text units))
  | .list items => return some (.list (← formItems items))
  | .object members => return some (.object (← formMembers members))
  | .standIn value => value.form
  | .unwritable _ thrown => .error thrown

/-- In a list `null` takes the place of what has no text. -/
def formItems : List Value → Except (Option (List UInt16)) (List Form)
  | [] => .ok []
  | item :: items => do
    let form? ← item.form
    return form?.getD .null :: (← formItems items)

/-- In an object what has no text is left out. -/
def formMembers :
    List (List UInt16 × Value) → Except (Option (List UInt16)) (List (List UInt16 × Form))
  | [] => .ok []
  | (key, value) :: members => do
    match ← value.form with
    | none => formMembers members
    | some form => return (key, form) :: (← formMembers members)

end

end Forms

section Texts

/-- A unit is the first one of two for a character beyond the first 65536. -/
def isHigh (unit : UInt16) : Bool := 0xD800 ≤ unit && unit ≤ 0xDBFF

/-- A unit is the second one of two. -/
def isLow (unit : UInt16) : Bool := 0xDC00 ≤ unit && unit ≤ 0xDFFF

/-- A character, or one half of a pair without the other. -/
inductive Point
  | char (c : Char)
  | half (unit : UInt16)
deriving DecidableEq

/-- The character of two units. -/
def joined (high low : UInt16) : Char :=
  Char.ofNat ((high.toNat - 0xD800) * 0x400 + (low.toNat - 0xDC00) + 0x10000)

/-- What a unit stands for by itself. -/
def Point.ofUnit (unit : UInt16) : Point :=
  if isHigh unit || isLow unit then .half unit else .char (Char.ofNat unit.toNat)

/-- The characters of a text. -/
def points : List UInt16 → List Point
  | [] => []
  | [unit] => [.ofUnit unit]
  | high :: low :: units =>
    if isHigh high && isLow low then .char (joined high low) :: points units
    else .ofUnit high :: points (low :: units)

/-- A half is escaped, with four hexadecimal digits. -/
def Point.print : Point → List Char
  | .char c => Json.escapeChar c
  | .half unit =>
    ['\\', 'u', Json.hexDigit (unit.toNat / 4096), Json.hexDigit (unit.toNat / 256 % 16),
      Json.hexDigit (unit.toNat / 16 % 16), Json.hexDigit (unit.toNat % 16)]

/-- The character of a point that is one. -/
def Point.char? : Point → Option Char
  | .char c => some c
  | .half _ => none

/-- No half stands without the other. -/
def isSound (units : List UInt16) : Bool := (points units).all (·.char?.isSome)

/-- A text between double quotes. -/
def printUnits (units : List UInt16) : List Char :=
  '"' :: (points units).flatMap Point.print ++ ['"']

/-- The digits of a number, in positions unless they are too far from the point. -/
def printDigits (d : Decimal.Digits) : List Char :=
  if -6 ≤ d.exponent ∧ d.exponent ≤ 20 then d.plain else d.scientific

/-- A number in its shortest digits. Zero has no sign, and what is no number has no text of its
own. -/
def printNumber (x : Float) : List Char :=
  match Decimal.reading x with
  | .zero _ => ['0']
  | .finite negative v => Decimal.sign negative ++ printDigits (v.shortest .toEven)
  | .infinite _ | .notANumber => ['n', 'u', 'l', 'l']

mutual

/-- The text of what is left of a value. -/
def Form.print : Form → List Char
  | .null => ['n', 'u', 'l', 'l']
  | .bool true => ['t', 'r', 'u', 'e']
  | .bool false => ['f', 'a', 'l', 's', 'e']
  | .number x => printNumber x
  | .text units => printUnits units
  | .list [] => ['[', ']']
  | .list (item :: items) => '[' :: item.print ++ printItems items
  | .object [] => ['\x7b', '\x7d']
  | .object ((key, value) :: members) =>
    '\x7b' :: printUnits key ++ ':' :: value.print ++ printMembers members

/-- The items that follow the first one, up to the closing bracket. -/
def printItems : List Form → List Char
  | [] => [']']
  | item :: items => ',' :: item.print ++ printItems items

/-- The members that follow the first one, up to the closing brace. -/
def printMembers : List (List UInt16 × Form) → List Char
  | [] => ['\x7d']
  | (key, value) :: members => ',' :: printUnits key ++ ':' :: value.print ++ printMembers members

end

/-- The key of the wrapper's value, `value`. -/
def valueKey : List UInt16 := [118, 97, 108, 117, 101]

/-- The key of what was thrown, `error`. -/
def errorKey : List UInt16 := [101, 114, 114, 111, 114]

/-- The text of an object whose only member is a value. If the page throws while it writes that, it
is the text of an object whose only member is the text of what is thrown, if there is one. -/
def wrapped (x : Value) : Option String :=
  match formMembers [(valueKey, x)] with
  | .ok members => some (String.ofList (Form.object members).print)
  | .error (some thrown) => some (String.ofList (Form.object [(errorKey, .text thrown)]).print)
  | .error none => none

end Texts

section Fidelity

mutual

/-- In all texts and keys no half stands without the other. -/
def Form.isSound : Form → Bool
  | .null | .bool _ | .number _ => true
  | .text units => Script.isSound units
  | .list items => areSoundItems items
  | .object members => areSoundMembers members

def areSoundItems : List Form → Bool
  | [] => true
  | item :: items => item.isSound && areSoundItems items

def areSoundMembers : List (List UInt16 × Form) → Bool
  | [] => true
  | (key, value) :: members => Script.isSound key && value.isSound && areSoundMembers members

end

mutual

/-- How deep lists and objects are nested. -/
def Form.nesting : Form → Nat
  | .null | .bool _ | .number _ | .text _ => 0
  | .list items => nestingItems items + 1
  | .object members => nestingMembers members + 1

def nestingItems : List Form → Nat
  | [] => 0
  | item :: items => max item.nesting (nestingItems items)

def nestingMembers : List (List UInt16 × Form) → Nat
  | [] => 0
  | (_, value) :: members => max value.nesting (nestingMembers members)

end

/-- A value is written in a text that can be read: the page does not throw, no half of a character
stands alone, and lists and objects are not nested too deep. -/
def Value.travels (x : Value) : Bool :=
  match x.form with
  | .ok none => true
  | .ok (some form) => form.isSound && decide (form.nesting ≤ 126)
  | .error _ => false

/-- A value has the truth of what is left of it. -/
def Value.survives : Value → Bool
  | .undefined | .null | .bool _ | .text _ | .list _ | .object _ => true
  | .number x => match Decimal.reading x with
    | .infinite _ => false
    | .zero _ | .finite _ _ | .notANumber => true
  | .function | .symbol | .unwritable _ _ => false
  | .standIn value => value.isTruthy && value.survives

/-- What is left of a value has its truth if that survives, and is not taken for true if not. -/
theorem Value.isTruthy_of_form : ∀ (x : Value) {form? : Option Form}, x.form = .ok form? →
    (match form? with
      | none => false
      | some form => form.isTruthy) = (x.isTruthy && x.survives)
  | .undefined, _, rfl | .null, _, rfl | .function, _, rfl | .symbol, _, rfl => rfl
  | .bool b, _, rfl => (Bool.and_true b).symm
  | .text units, _, rfl => (Bool.and_true (!units.isEmpty)).symm
  | .number x, _, rfl => by
    simp only [isTruthy, survives, Form.isTruthy]
    cases Decimal.reading x <;> rfl
  | .list items, form?, h => by
    obtain ⟨forms, -, hform⟩ := Json.bind_eq_ok h
    cases hform
    rfl
  | .object members, form?, h => by
    obtain ⟨forms, -, hform⟩ := Json.bind_eq_ok h
    cases hform
    rfl
  | .standIn value, form?, h => value.isTruthy_of_form h

end Fidelity

end PagePilot.Script
