/-!
# Characters in YAML

- `isBreak`, `isBlank`: what ends a line, and what separates words within one.
- `isPrintable`, `isReadable`: what is written without an escape, and what may be read at all.
- `isLeadingIndicator`: what cannot start a text without quotes.
- `listOpen` and the like: brackets.
-/

namespace SheetScript.Yaml

/-- The characters that end a line. -/
def isBreak (c : Char) : Bool :=
  c == '\n' || c == '\r' || c.toNat == 0x85 || c.toNat == 0x2028 || c.toNat == 0x2029

/-- The characters that need no escape. The byte order mark is none of them. -/
def isPrintable (c : Char) : Bool :=
  let n := c.toNat
  n == 0x0A || (0x20 ≤ n && n ≤ 0x7E) || (0xA0 ≤ n && n ≤ 0xD7FF) ||
    (0xE000 ≤ n && n ≤ 0xFFFD && n != 0xFEFF) || 0x10000 ≤ n

/-- Whether a character is the byte order mark. -/
def isOrderMark (c : Char) : Bool :=
  c.toNat == 0xFEFF

/-- The characters that a document can hold. -/
def isReadable (c : Char) : Bool :=
  isPrintable c || c == '\t' || c == '\r' || c.toNat == 0x85 || isOrderMark c

/-- The blanks within a line. -/
def isBlank (c : Char) : Bool :=
  c == ' ' || c == '\t'

/-- A single quotation mark. -/
def quote : Char := Char.ofNat 39

/-- An opening bracket of a list. -/
def listOpen : Char := '['

/-- A closing bracket of a list. -/
def listClose : Char := ']'

/-- An opening bracket of a map. -/
def mapOpen : Char := '\x7b'

/-- A closing bracket of a map. -/
def mapClose : Char := '\x7d'

/-- The characters that cannot start a text without quotes. -/
def isLeadingIndicator (c : Char) : Bool :=
  "#,[]\x7b\x7d&*!|>\"%@".toList.contains c || c == quote || c.toNat == 96

end SheetScript.Yaml
