import SheetScript.Grid.Column
import SheetScript.Text.Blank
import SheetScript.Text.Numeral

/-!
# Whole rows and whole columns

A span is a block of neighbouring whole rows, written `2:10`, or of neighbouring whole columns,
written `A:C`. The two ends may be given in either order.

- `Span.make?`: the span between two lines of an axis.
- `Span.rows?`, `Span.columns?`: the span a text names on either axis.
- `Span.text`: the notation, smaller end first.
- `Span.insertShift`, `Span.deleteShift`: which way the cells behind a span move.
-/

namespace SheetScript.Grid

/-- Which way whole lines run. -/
inductive Axis where
  | rows
  | columns
deriving DecidableEq, Repr

/-- The number of lines the grid has on an axis. -/
def Axis.limit : Axis → Nat
  | .rows => maxRows
  | .columns => maxColumns

/-- The direction in which cells move when lines are inserted or deleted. -/
inductive Shift where
  | down
  | up
  | right
  | left
deriving DecidableEq, Repr

/-- The name of a direction. -/
def Shift.name : Shift → String
  | .down => "Down"
  | .up => "Up"
  | .right => "Right"
  | .left => "Left"

/-- Neighbouring whole rows or whole columns, both ends included. -/
@[ext] structure Span where
  axis : Axis
  first : Nat
  last : Nat
  ordered : 1 ≤ first ∧ first ≤ last
  within : last ≤ axis.limit
deriving DecidableEq, Repr

namespace Span

/-- The span between two lines of an axis, in either order, if the grid has both. -/
def make? (axis : Axis) (a b : Nat) : Option Span :=
  if h : 1 ≤ min a b ∧ max a b ≤ axis.limit then
    some ⟨axis, min a b, max a b, ⟨h.1, by omega⟩, h.2⟩
  else none

/-- The two parts of a text with exactly one colon. -/
def halves? (cs : List Char) : Option (List Char × List Char) :=
  match cs.splitOn ':' with
  | [a, b] => some (a, b)
  | _ => none

/-- The row span that a text without surrounding blanks names. -/
def rowsOfChars? (cs : List Char) : Option Span := do
  let (a, b) ← halves? cs
  make? .rows (← Text.digits? a) (← Text.digits? b)

/-- The column span that a text without surrounding blanks names. Each end has at most three
letters. -/
def columnsOfChars? (cs : List Char) : Option Span := do
  let (a, b) ← halves? cs
  if a.length ≤ 3 ∧ b.length ≤ 3 then
    make? .columns (← columnOfLetters? a) (← columnOfLetters? b)
  else none

/-- The rows a text such as `5:5` or `2:10` names. -/
def rows? (s : String) : Option Span :=
  rowsOfChars? (Text.trimChars s.toList)

/-- The columns a text such as `B:B` or `A:C` names. -/
def columns? (s : String) : Option Span :=
  columnsOfChars? (Text.trimChars s.toList)

/-- Whether a text names whole rows or whole columns. -/
def isNotation (s : String) : Bool :=
  (rows? s).isSome || (columns? s).isSome

/-- How many lines a span has. -/
def count (s : Span) : Nat :=
  s.last - s.first + 1

/-- Cells move away from the start of the grid when lines are inserted. -/
def insertShift (s : Span) : Shift :=
  match s.axis with
  | .rows => .down
  | .columns => .right

/-- Cells move towards the start of the grid when lines are deleted. -/
def deleteShift (s : Span) : Shift :=
  match s.axis with
  | .rows => .up
  | .columns => .left

/-- The notation of one line. -/
def lineText : Axis → Nat → String
  | .rows, n => n.repr
  | .columns, n => columnName n

/-- The notation of a span, smaller end first. -/
def text (s : Span) : String :=
  lineText s.axis s.first ++ ":" ++ lineText s.axis s.last

theorem count_pos (s : Span) : 0 < s.count := by
  simp [count]

theorem first_add_count (s : Span) : s.first + s.count = s.last + 1 := by
  have := s.ordered
  simp only [count]
  omega

end Span

end SheetScript.Grid
