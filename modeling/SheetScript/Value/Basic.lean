import SheetScript.Number.Shortest
import SheetScript.Text.Hidden

/-!
# Data trees

Workbooks, histories and settings are stored as trees of numbers, texts, lists and maps. A tree read
from a text format may hold scalars whose sort is open: an unquoted `7` is a number or a text as its
place demands.

- `Value`: the trees.
- `DataError`: why a tree does not fit, with its wording.
- `Value.describe`: how an error names a tree that does not fit.
-/

namespace SheetScript

/-- A tree of data. -/
inductive Value where
  | null
  | flag (b : Bool)
  | number (n : Int)
  /-- The number `units * 2 ^ -1074` in double precision. Its zero can be negative. -/
  | real (negative : Bool) (units : Nat)
  | text (s : String)
  /-- An unquoted scalar. What it stands for depends on its place. -/
  | scalar (s : String)
  /-- A list. If it is positional, it may also stand for a record with its fields in order. -/
  | list (positional : Bool) (items : List Value)
  | map (entries : List (String × Value))
  /-- A map with a key that is no scalar. Nothing is read from it. -/
  | oddMap
deriving Repr, Inhabited

/-- Why a tree does not fit. -/
inductive DataError where
  | missingField (name : String)
  | duplicateField (name : String)
  | wrongType (found expected : String)
  | wrongValue (found expected : String)
  | wrongLength (length : Nat) (expected : String)
  /-- The key of a cell is no cell of the grid. -/
  | badCell (key sheet : String)
deriving DecidableEq, Repr

/-- A text between backquotes. -/
def backquoted (s : String) : String :=
  "`" ++ s ++ "`"

/-- The wording of an error. -/
def DataError.message : DataError → String
  | missingField name => "missing field " ++ backquoted name
  | duplicateField name => "duplicate field " ++ backquoted name
  | wrongType found expected => "invalid type: " ++ found ++ ", expected " ++ expected
  | wrongValue found expected => "invalid value: " ++ found ++ ", expected " ++ expected
  | wrongLength length expected => "invalid length " ++ length.repr ++ ", expected " ++ expected
  | badCell key sheet => "bad cell address " ++ key ++ " on sheet " ++ sheet

namespace Value

/-- A character within quotes: quotes and backslashes are escaped, hidden characters are named. -/
def escapedChar (c : Char) : String :=
  if c = '"' then "\\\""
  else if c = '\\' then "\\\\"
  else if c = '\n' then "\\n"
  else if c = '\r' then "\\r"
  else if c = '\t' then "\\t"
  else if c.toNat = 0 then "\\0"
  else if Text.isHidden c then
    "\\u\x7b" ++ String.ofList (Nat.toDigits 16 c.toNat) ++ "\x7d"
  else String.singleton c

/-- A text in double quotes. -/
def quotedText (s : String) : String :=
  "\"" ++ String.join (s.toList.map escapedChar) ++ "\""

/-- How an error names a tree that does not fit. -/
def describe : Value → String
  | null => "null"
  | flag b => "boolean " ++ backquoted (if b then "true" else "false")
  | number n => "integer " ++ backquoted (toString n)
  | real negative units => "floating point " ++ backquoted (Number.numeral negative units)
  | text s | scalar s => "string " ++ quotedText s
  | list .. => "sequence"
  | map _ | oddMap => "map"

/-- A list that stands for nothing but a list. -/
def items (vs : List Value) : Value :=
  .list false vs

end Value

end SheetScript
