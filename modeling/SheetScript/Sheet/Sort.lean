import SheetScript.Number.Binary64
import SheetScript.Sheet.Basic
import SheetScript.Sheet.DriftSort

/-!
# Sorting rows

The rows of a block are sorted by the texts in one of its columns. Numbers come before other texts,
texts are compared in lower case, and a descending sort reverses that order. Rows whose key is empty
stay in their order at the end, whichever way the others are sorted.

- `SortKey`, `SortKey.order`: what is compared and how; `compareKeys` is the order of two texts.
- `Cells.rowOrder?`: the rows in sorted order. Unless a key is not-a-number, only the rows with a key are
  looked at.
- `Cells.sortRows?`: the sort. A row without a key moves down by the rows with a key that leave the places
  below it. There is no result if the keys are found to be in no order.
- `Sheet.sortArea`: the part of whole lines that is sorted, up to the last cell in use.
-/

namespace SheetScript

open Grid

/-- What a text counts as when it is sorted. -/
inductive SortKey where
  | number (value : Number.Binary64)
  /-- Any other text, in lower case. -/
  | text (lowered : List Char)
  | blank
deriving DecidableEq, Repr

namespace SortKey

/-- The key of a text. Blanks around a number do not count. -/
def ofText (s : String) : SortKey :=
  if s = "" then .blank
  else
    match Number.Binary64.parse? (Text.trimChars s.toList) with
    | some x => .number x
    | none => .text (Text.lowerChars s.toList)

/-- The order of two keys that are not blank. -/
def ascendingOrder : SortKey → SortKey → Ordering
  | .number x, .number y => x.order y
  | .number _, _ => .lt
  | _, .number _ => .gt
  | .text s, .text t => compare s t
  | _, _ => .eq

/-- The order of two keys. Blank keys come last in both directions. -/
def order (ascending : Bool) : SortKey → SortKey → Ordering
  | .blank, .blank => .eq
  | .blank, _ => .gt
  | _, .blank => .lt
  | x, y => if ascending then ascendingOrder x y else (ascendingOrder x y).swap

end SortKey

/-- The order of two texts in a sort. -/
def compareKeys (ascending : Bool) (s t : String) : Ordering :=
  SortKey.order ascending (.ofText s) (.ofText t)

/-! ## The rows of a block -/

namespace Cells

/-- The text a row is sorted by. -/
def keyText (cells : Cells) (keyColumn row : Nat) : String :=
  (cells.getAt row keyColumn).sortText

/-- Whether a row has to come before another one, by their keys. -/
def keyPrecedes (ascending : Bool) (x y : Nat × SortKey) : Bool :=
  SortKey.order ascending x.2 y.2 == .lt

/-- The rows of a block with a text in the key column, and the keys, top to bottom. -/
def keyedRows (cells : Cells) (b : Block) (keyColumn : Nat) : List (Nat × SortKey) :=
  cells.toList.filterMap fun (p, c) =>
    if b.contains p ∧ p.col = keyColumn ∧ c.sortText ≠ "" then some (p.row, .ofText c.sortText)
    else none

/-- The rows of a block with a text in the key column, sorted by insertion. -/
def rowOrder (cells : Cells) (b : Block) (keyColumn : Nat) (ascending : Bool) : List Nat :=
  (stableSort (keyPrecedes ascending) (cells.keyedRows b keyColumn)).map (·.1)

/-- Whether the rows of a block are sorted as if by insertion: there are few enough of them, or no key is
not-a-number, so that the keys are in one order and every stable sort comes to the same
(`listedFirst_rowOrder?`). -/
def isOrderly (cells : Cells) (b : Block) (keyColumn : Nat) : Bool :=
  b.height ≤ maxInsertion || (cells.keyedRows b keyColumn).all fun x => x.2 != .number .nan

/-- All rows of a block and their keys, top to bottom. -/
def allKeys (cells : Cells) (b : Block) (keyColumn : Nat) : List (Nat × SortKey) :=
  b.rows.map fun row => (row, .ofText (cells.keyText keyColumn row))

/-- The rows of a block that come first, in sorted order: those with a key, since the others stay behind
them, or all rows. There may be none if the keys are in no order. -/
def rowOrder? (cells : Cells) (b : Block) (keyColumn : Nat) (ascending : Bool) :
    Option (List Nat) :=
  if cells.isOrderly b keyColumn then some (cells.rowOrder b keyColumn ascending)
  else
    (driftSort (keyPrecedes ascending) (cells.allKeys b keyColumn)).map fun rows => rows.map (·.1)

/-- Where a row of a block goes: to its place among the sorted rows, or behind them to its place
among the others. -/
def sortedRow (b : Block) (sorted : List Nat) (row : Nat) : Nat :=
  match sorted.idxOf? row with
  | some i => b.top + i
  | none => row + sorted.countP (row < ·)

/-- Move the rows of a block to their places. These are rows of the block, so no cell leaves the grid. -/
def moveRows (cells : Cells) (b : Block) (sorted : List Nat) : Cells :=
  cells.relocate fun p =>
    if b.contains p then Position.at? (sortedRow b sorted p.row) p.col else some p

/-- Sort the rows of a block by one of its columns. -/
def sortRows? (cells : Cells) (b : Block) (keyColumn : Nat) (ascending : Bool) : Option Cells :=
  (cells.rowOrder? b keyColumn ascending).map (cells.moveRows b)

end Cells

/-! ## Whole lines -/

/-- The part of whole lines that is sorted: up to the last row and the last column in use, the key
column included. -/
def Sheet.sortArea (s : Sheet) (b : Block) (keyColumn : Nat) : Block :=
  match s.usedCorner? with
  | some (row, col) => b.cutTo row (max col keyColumn)
  | none => b.cutTo b.top keyColumn

/-- The part of a block that is sorted, by how the block is written. -/
def Sheet.areaToSort (s : Sheet) (reference : String) (b : Block) (keyColumn : Nat) : Block :=
  if Span.isNotation reference then s.sortArea b keyColumn else b

end SheetScript
