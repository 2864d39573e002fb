import SheetScript.Host.Basic
import SheetScript.Sheet.Basic
import SheetScript.Sheet.Sort

/-!
# Workbooks

A workbook is a list of sheets, one of them active, and a selection. Sheets are found by name
ignoring the case of ASCII letters; the first match counts.

- `Workbook.resolve`: the sheet and the block an address names.
- the reads (`value`, `formula`, …) and the writes (`setValue`, `insert`, `copy`, `sort`, …): each
  gives its result or the new workbook, or fails and changes nothing.
- `Workbook.findCell?`, `Workbook.put`: direct access to one cell.
-/

namespace SheetScript

open Grid

/-- A workbook. The active index may be past the last sheet, which then counts as active. -/
structure Workbook where
  sheets : List Sheet
  active : Nat := 0
  selection : Option Address := none
deriving DecidableEq

namespace Workbook

/-- The name of the first sheet of a new workbook. -/
def firstSheetName : String := "Sheet1"

/-- A workbook with blank sheets of the given names, or with one sheet if there are none. -/
def withSheets (names : List String) : Workbook where
  sheets := (if names = [] then [firstSheetName] else names).map fun name => { name }

/-- A workbook with one blank sheet. -/
def new : Workbook :=
  withSheets []

/-! ## Sheets and addresses -/

/-- The index of the sheet that counts as active. -/
def activeIndex (w : Workbook) : Nat :=
  min w.active (w.sheets.length - 1)

/-- The active sheet; only a workbook without sheets has none. -/
def activeSheet? (w : Workbook) : Option Sheet :=
  w.sheets[w.activeIndex]?

/-- The index of the first sheet with a name. -/
def sheetIndex? (w : Workbook) (name : String) : Option Nat :=
  w.sheets.findIdx? fun s => Text.sameIgnoringCase s.name name

/-- The first sheet with a name. -/
def sheet? (w : Workbook) (name : String) : Option Sheet :=
  (w.sheetIndex? name).bind fun i => w.sheets[i]?

/-- The index of the sheet with a name that has to exist. -/
def requireSheet (w : Workbook) (name : String) : Except HostError Nat :=
  match w.sheetIndex? name with
  | some i => pure i
  | none => throw (.sheetNotFound name)

/-- The index of the sheet and the block that an address names. -/
def resolve (w : Workbook) (address : Address) : Except HostError (Nat × Block) := do
  let i ← match address.sheet with
    | some name => w.requireSheet name
    | none => pure w.activeIndex
  match Block.parse? address.reference with
  | some b => pure (i, b)
  | none => throw (.badReference address)

/-- A workbook operation that can be refused as one step of a call. -/
def orFail {α : Type} (r : Except HostError α) : Except Failure α :=
  r.mapError .error

/-- The sheet at an index that is known to stand for a sheet unless there are none. -/
def sheetAt (w : Workbook) (i : Nat) : Except Failure Sheet :=
  match w.sheets[i]? with
  | some s => pure s
  | none => throw (.stop .noSheet)

/-- The active sheet. -/
def activeSheet (w : Workbook) : Except Failure Sheet :=
  w.sheetAt w.activeIndex

/-- The workbook with another sheet at an index. -/
def withSheet (w : Workbook) (i : Nat) (s : Sheet) : Workbook :=
  { w with sheets := w.sheets.set i s }

/-- Change the active sheet. -/
def changeActive (w : Workbook) (f : Sheet → Except Failure Sheet) : Except Failure Workbook := do
  return w.withSheet w.activeIndex (← f (← w.activeSheet))

/-- Change the sheet an address names. -/
def changeAt (w : Workbook) (address : Address) (f : Sheet → Block → Except Failure Sheet) :
    Except Failure Workbook := do
  let (i, b) ← orFail (w.resolve address)
  return w.withSheet i (← f (← w.sheetAt i) b)

/-! ## Cells -/

/-- The first cell of the block an address names. -/
def cellAt (w : Workbook) (address : Address) : Except Failure Cell := do
  let (i, b) ← orFail (w.resolve address)
  return (← w.sheetAt i).cells.get b.topLeft

/-- The value of a cell. -/
def value (w : Workbook) (address : Address) : Except Failure String :=
  return (← w.cellAt address).value

/-- The formula of a cell, or its value if it has none. -/
def formula (w : Workbook) (address : Address) : Except Failure String :=
  return (← w.cellAt address).shown

/-- Whether a cell is bold. -/
def bold (w : Workbook) (address : Address) : Except Failure Bool :=
  return (← w.cellAt address).bold

/-- The fill colour of a cell. -/
def fill (w : Workbook) (address : Address) : Except Failure String :=
  return (← w.cellAt address).fill

/-- Change every cell of a block. -/
def write (w : Workbook) (address : Address) (f : Cell → Cell) : Except Failure Workbook :=
  w.changeAt address fun s b =>
    match s.writeBlock? b f with
    | some s => pure s
    | none => throw (.error (.tooLarge b.size))

/-- Put a constant into every cell of a block. -/
def setValue (w : Workbook) (address : Address) (text : String) : Except Failure Workbook :=
  w.write address (Cell.withValue text)

/-- Enter a text into every cell of a block, as a formula if it starts with an equals sign. -/
def setFormula (w : Workbook) (address : Address) (text : String) : Except Failure Workbook :=
  w.write address (Cell.withEntry text)

/-- Set the weight of every cell of a block. -/
def setBold (w : Workbook) (address : Address) (bold : Bool) : Except Failure Workbook :=
  w.write address (Cell.withBold bold)

/-- Set the fill colour of every cell of a block. -/
def setFill (w : Workbook) (address : Address) (color : String) : Except Failure Workbook :=
  w.write address (Cell.withFill color)

/-- Blank a block. -/
def clear (w : Workbook) (address : Address) : Except Failure Workbook :=
  w.changeAt address fun s b => pure (s.clearBlock b)

/-- Select an address. -/
def select (w : Workbook) (address : Address) : Except Failure Workbook := do
  let _ ← orFail (w.resolve address)
  return { w with selection := some address }

/-- The used cells of a block with their addresses. -/
def snapshot (w : Workbook) (address : Address) : Except Failure (List PlacedCell) := do
  let (i, b) ← orFail (w.resolve address)
  return ((← w.sheetAt i).cells.within b).map fun (p, c) => ⟨address.withReference p.text, c⟩

/-- Sort the rows of a block by one of its columns. Whole lines are sorted up to the last cell in
use. Nothing is moved before the order of the rows is known. -/
def sort (w : Workbook) (address : Address) (key : Nat) (ascending : Bool) :
    Except Failure Workbook :=
  w.changeAt address fun s b =>
    if key < b.width then
      let keyColumn := b.left + key
      match s.cells.sortRows? (s.areaToSort address.reference b keyColumn) keyColumn ascending with
      | some cells => pure { s with cells }
      | none => throw (.stop .disorder)
    else throw (.error (.keyOutside key address.reference))

/-- Copy a block onto the block of the same size at the first cell of the target. -/
def copy (w : Workbook) (source target : Address) : Except Failure Workbook := do
  let (i, sourceBlock) ← orFail (w.resolve source)
  let (j, targetBlock) ← orFail (w.resolve target)
  let origin ← w.sheetAt i
  return w.withSheet j
    ((← w.sheetAt j).pasteBlock sourceBlock origin.cells targetBlock.topLeft)

/-! ## Lines -/

/-- Insert lines on the active sheet. -/
def insert (w : Workbook) (lines : Span) (shift : Shift) : Except Failure Workbook :=
  if shift = lines.insertShift then w.changeActive fun s => pure (s.insertLines lines)
  else throw (.error (.wrongShift shift lines))

/-- Delete lines on the active sheet. -/
def delete (w : Workbook) (lines : Span) (shift : Shift) : Except Failure Workbook :=
  if shift = lines.deleteShift then w.changeActive fun s => pure (s.deleteLines lines)
  else throw (.error (.wrongShift shift lines))

/-! ## Sheets -/

/-- Add a blank sheet at the end. -/
def addSheet (w : Workbook) (name : String) : Except Failure Workbook :=
  if (w.sheetIndex? name).isSome then throw (.error (.sheetExists name))
  else pure { w with sheets := w.sheets ++ [{ name }] }

/-- The name of a sheet as it is stored, or the name of the active sheet. -/
def sheetName (w : Workbook) (name : Option String) : Except Failure String := do
  let i ← match name with
    | some name => orFail (w.requireSheet name)
    | none => pure w.activeIndex
  return (← w.sheetAt i).name

/-- Rename a sheet. Another sheet must not have the new name. -/
def renameSheet (w : Workbook) (old new : String) : Except Failure Workbook := do
  let i ← orFail (w.requireSheet old)
  if (w.sheetIndex? new).any (· != i) then throw (.error (.sheetExists new))
  else return w.withSheet i { ← w.sheetAt i with name := new }

/-- Delete a sheet. The active sheet stays active; if it is deleted, its successor takes its place,
or the last sheet. -/
def deleteSheet (w : Workbook) (name : String) : Except Failure Workbook := do
  let i ← orFail (w.requireSheet name)
  if w.sheets.length = 1 then throw (.error .lastSheet)
  else
    let active := w.activeIndex
    return { w with
      sheets := w.sheets.eraseIdx i
      active := if i < active then active - 1 else min active (w.sheets.length - 2) }

/-- Make a sheet active. -/
def activateSheet (w : Workbook) (name : String) : Except Failure Workbook := do
  return { w with active := ← orFail (w.requireSheet name) }

/-! ## Charts -/

/-- The name the next chart on the active sheet gets. -/
def nextChart (w : Workbook) (source : Address) : Except Failure String := do
  let _ ← orFail (w.resolve source)
  return (← w.activeSheet).freshChartName

/-- Add a chart to the active sheet. -/
def addChart (w : Workbook) (kind : String) (source : Address) (title : String) :
    Except Failure (String × Workbook) := do
  let name ← w.nextChart source
  let book ← w.changeActive fun s =>
    pure { s with charts := s.charts ++ [⟨name, kind, source.text, title⟩] }
  return (name, book)

/-- The charts of the active sheet. -/
def charts (w : Workbook) : Except Failure (List ChartEntry) :=
  return (← w.activeSheet).charts.map fun c => ⟨c.name, c.title⟩

/-- Delete the first chart of the active sheet with a name, ignoring the case of ASCII letters. -/
def deleteChart (w : Workbook) (name : String) : Except Failure Workbook :=
  w.changeActive fun s =>
    match s.charts.findIdx? fun c => Text.sameIgnoringCase c.name name with
    | some i => pure { s with charts := s.charts.eraseIdx i }
    | none => throw (.error (.chartNotFound name))

/-! ## Direct access -/

/-- The cell a text names, if it names one and the cell is in use. -/
def findCell? (w : Workbook) (text : String) : Except Failure (Option Cell) :=
  match Address.parse text with
  | .error _ => pure none
  | .ok address =>
    match w.resolve address with
    | .error _ => pure none
    | .ok (i, b) => return (← w.sheetAt i).cells.find? b.topLeft

/-- The value of the cell a text names, empty if there is none. -/
def valueAt (w : Workbook) (text : String) : Except Failure String :=
  return ((← w.findCell? text).map Cell.value).getD ""

/-- Write a constant straight into the block a text names. -/
def put (w : Workbook) (text value : String) : Except Failure Workbook := do
  let address ← orFail ((Address.parse text).mapError .badAddress)
  w.setValue address value

end Workbook

end SheetScript
