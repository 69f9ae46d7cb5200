import PagePilot.Text.Shown

/-!
# Quoted texts

The written form of a text in a report: between double quotes, with a backslash before quotes and
backslashes, short names for the usual controls, and the code point in braces for every other
character that has no shape of its own.

## Main definitions

- `spellChar` - how one character is written
- `quoted` - a whole text
- `listed`, `entries`, `fields`, `optional` - lists, maps, records and optional values in reports
-/

namespace PagePilot.Text

/-- The code point of a character in braces, in lowercase hexadecimal without padding. -/
def spellCodePoint (c : Char) : List Char :=
  ['\\', 'u', '\x7b'] ++ Nat.toDigits 16 c.toNat ++ ['\x7d']

/-- How a character is written between double quotes. -/
def spellChar (c : Char) : List Char :=
  if c = '"' then ['\\', '"']
  else if c = '\\' then ['\\', '\\']
  else if c = '\n' then ['\\', 'n']
  else if c = '\r' then ['\\', 'r']
  else if c = '\t' then ['\\', 't']
  else if c.toNat = 0 then ['\\', '0']
  else if isShown c then [c]
  else spellCodePoint c

/-- A text between double quotes. Apostrophes stay as they are. -/
def quoted (s : String) : String :=
  String.ofList (['"'] ++ s.toList.flatMap spellChar ++ ['"'])

/-- The texts of a list between square brackets. -/
def listed (texts : List String) : String :=
  "[" ++ ", ".intercalate texts ++ "]"

/-- Named quoted values between braces. -/
def entries (pairs : List (String × String)) : String :=
  "\x7b" ++ ", ".intercalate (pairs.map fun (key, value) => quoted key ++ ": " ++ quoted value)
    ++ "\x7d"

/-- Named values between braces, names as they are. -/
def fields (pairs : List (String × String)) : String :=
  "\x7b " ++ ", ".intercalate (pairs.map fun (name, value) => name ++ ": " ++ value) ++ " \x7d"

/-- A value that may be missing. -/
def optional : Option String → String
  | none => "None"
  | some text => "Some(" ++ text ++ ")"

end PagePilot.Text
