/-!
# Blank characters

Which characters count as blank, and how a text is cut at its blank ends.

## Main definitions

- `blanks` - the characters with the property White_Space
- `trim` - a text without the blanks at its two ends
- `isBlankText` - a text that holds nothing but blanks
-/

namespace PagePilot.Text

/-- The characters of the property White_Space. -/
def blanks : List Char :=
  ['\t', '\n', '\x0b', '\x0c', '\r', ' ', '\u0085', '\u00a0', '\u1680', '\u2000', '\u2001',
   '\u2002', '\u2003', '\u2004', '\u2005', '\u2006', '\u2007', '\u2008', '\u2009', '\u200a',
   '\u2028', '\u2029', '\u202f', '\u205f', '\u3000']

/-- A character is blank when it is one of `blanks`. -/
def isBlank (c : Char) : Bool :=
  blanks.contains c

/-- The blanks at both ends of a list of characters are cut off. -/
def trimChars (cs : List Char) : List Char :=
  ((cs.dropWhile isBlank).reverse.dropWhile isBlank).reverse

/-- The text without the blanks at its two ends. -/
def trim (s : String) : String :=
  String.ofList (trimChars s.toList)

/-- A text is blank when each of its characters is; the empty text is. -/
def isBlankText (s : String) : Bool :=
  s.toList.all isBlank

end PagePilot.Text
