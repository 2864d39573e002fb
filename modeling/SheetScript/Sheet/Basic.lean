import SheetScript.Sheet.Cells
import SheetScript.Text.Lower

/-!
# Sheets

A sheet has a name, cells and charts. This module holds what happens within one sheet.

- `Sheet.writeBlock?`: change every cell of a block, which must not be too large.
- `Sheet.insertLines`, `Sheet.deleteLines`: make room for whole lines or remove them.
- `Sheet.pasteBlock`: put the cells of a block elsewhere, all at once.
- `Sheet.freshChartName`: the first automatic chart name that is not taken.
- `Sheet.display`: the used area as tab-separated rows.
-/

namespace SheetScript

open Grid

/-- A sheet. -/
structure Sheet where
  name : String
  cells : Cells := .empty
  charts : List Chart := []
deriving DecidableEq

namespace Sheet

/-- The largest number of cells that one write may change. -/
def maxWrite : Nat := 65536

/-- Change every cell of a block, unless the block is too large. -/
def writeBlock? (s : Sheet) (b : Block) (f : Cell → Cell) : Option Sheet :=
  if b.size ≤ maxWrite then some { s with cells := s.cells.update b.positions f } else none

/-- Blank the cells of a block. -/
def clearBlock (s : Sheet) (b : Block) : Sheet :=
  { s with cells := s.cells.keep fun p => !b.contains p }

/-! ## Whole lines -/

/-- Where a cell goes when lines are inserted. A cell that would leave the grid is lost; it can only pass
the last line, as it goes away from the first one. -/
def insertedAt (lines : Span) (p : Position) : Option Position :=
  match lines.axis with
  | .rows => if p.row < lines.first then some p else Position.at? (p.row + lines.count) p.col
  | .columns => if p.col < lines.first then some p else Position.at? p.row (p.col + lines.count)

/-- Where a cell goes when lines are deleted. The cells on the lines are lost. The others stay on the
grid: a cell behind the lines has at least as many lines before it as are deleted. -/
def deletedAt (lines : Span) (p : Position) : Option Position :=
  match lines.axis with
  | .rows =>
    if p.row < lines.first then some p
    else if p.row ≤ lines.last then none
    else Position.at? (p.row - lines.count) p.col
  | .columns =>
    if p.col < lines.first then some p
    else if p.col ≤ lines.last then none
    else Position.at? p.row (p.col - lines.count)

/-- Insert blank lines. -/
def insertLines (s : Sheet) (lines : Span) : Sheet :=
  { s with cells := s.cells.relocate (insertedAt lines) }

/-- Delete lines. -/
def deleteLines (s : Sheet) (lines : Span) : Sheet :=
  { s with cells := s.cells.relocate (deletedAt lines) }

/-! ## Copies -/

/-- Where the cell at `p` goes when the block at `source` is copied so that it starts at `corner`;
`none` outside the block and past the edge of the grid. That can only be its last row or column, as the
copy goes down and to the right from its corner. -/
def copiedTo (source : Block) (corner p : Position) : Option Position :=
  if source.contains p then
    Position.at? (corner.row + (p.row - source.top)) (corner.col + (p.col - source.left))
  else none

/-- Replace the block of the size of `source` at `corner` by the cells that `origin` has in
`source`. -/
def pasteBlock (s : Sheet) (source : Block) (origin : Cells) (corner : Position) : Sheet :=
  let cleared := s.cells.keep fun p => !(source.moveTo corner).contains p
  let block := (origin.within source).filterMap fun (p, c) =>
    (copiedTo source corner p).map fun q => (q, c)
  { s with cells := cleared.setAll block }

/-! ## Charts -/

/-- The automatic name of the `n`th chart. -/
def chartName (n : Nat) : String :=
  "Chart " ++ n.repr

/-- Whether a sheet has a chart of that name, ignoring the case of ASCII letters. -/
def hasChart (s : Sheet) (name : String) : Bool :=
  s.charts.any fun c => Text.sameIgnoringCase c.name name

/-- The first automatic chart name from number `n` on that is not taken, among `tries` numbers. -/
def freshChartNameFrom (s : Sheet) : Nat → Nat → String
  | 0, n => chartName n
  | tries + 1, n =>
    if s.hasChart (chartName n) then freshChartNameFrom s tries (n + 1) else chartName n

/-- The first automatic chart name that is not taken. With `k` charts it is among the first `k + 1`
names. The number is tried without a check that it fits its type, like any number that counts items: a
list that long fits no memory. -/
def freshChartName (s : Sheet) : String :=
  s.freshChartNameFrom s.charts.length 1

/-! ## Display -/

/-- The last row and the last column in use. -/
def usedCorner? (s : Sheet) : Option (Nat × Nat) :=
  s.cells.toList.foldl (fun corner e =>
    match corner with
    | none => some (e.1.row, e.1.col)
    | some (row, col) => some (max row e.1.row, max col e.1.col)) none

/-- One row of the display: its number, then the text shown for each cell. -/
def displayRow (s : Sheet) (columns row : Nat) : String :=
  "\t".intercalate (row.repr :: (List.range' 1 columns).map fun col =>
    ((Position.at? row col).map fun p => (s.cells.get p).shown).getD "")

/-- The used area as tab-separated rows under a row of column names; nothing for a blank sheet. -/
def display (s : Sheet) : String :=
  match s.usedCorner? with
  | none => ""
  | some (rows, columns) =>
    "\n".intercalate
      ("\t".intercalate ("" :: (List.range' 1 columns).map columnName) ::
        (List.range' 1 rows).map (s.displayRow columns))

end Sheet

end SheetScript
