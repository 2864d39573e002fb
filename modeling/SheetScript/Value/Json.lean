import SheetScript.Value.Basic

/-!
# Compact JSON

Turns are reported one per line as JSON texts without spaces. Quotes, backslashes and control
characters are escaped, everything else is written as it is.

- `Json.stringText`: a text as a JSON string.
- `Json.render`: a tree as a JSON text.
-/

namespace SheetScript.Json

/-- A hexadecimal digit in lower case. -/
def hexDigit (n : Nat) : Char :=
  Nat.digitChar n

/-- A character within a JSON string. -/
def escapedChar (c : Char) : List Char :=
  if c = '"' then ['\\', '"']
  else if c = '\\' then ['\\', '\\']
  else if c = '\n' then ['\\', 'n']
  else if c = '\r' then ['\\', 'r']
  else if c = '\t' then ['\\', 't']
  else if c.toNat = 8 then ['\\', 'b']
  else if c.toNat = 12 then ['\\', 'f']
  else if c.toNat < 32 then
    ['\\', 'u', '0', '0', hexDigit (c.toNat / 16), hexDigit (c.toNat % 16)]
  else [c]

/-- A text as a JSON string. -/
def stringText (s : String) : String :=
  "\"" ++ String.ofList (s.toList.flatMap escapedChar) ++ "\""

mutual

/-- A tree as a JSON text. -/
def render : Value → String
  | .null => "null"
  | .flag b => if b then "true" else "false"
  | .number n => toString n
  | .real negative units => Number.numeral negative units
  | .text s | .scalar s => stringText s
  | .list _ items => "[" ++ ",".intercalate (renderItems items) ++ "]"
  | .map entries => "\x7b" ++ ",".intercalate (renderEntries entries) ++ "\x7d"
  | .oddMap => "\x7b\x7d"

/-- The items of a list as JSON texts. -/
def renderItems : List Value → List String
  | [] => []
  | v :: vs => render v :: renderItems vs

/-- The entries of a map as JSON texts. -/
def renderEntries : List (String × Value) → List String
  | [] => []
  | (k, v) :: es => (stringText k ++ ":" ++ render v) :: renderEntries es

end

end SheetScript.Json
