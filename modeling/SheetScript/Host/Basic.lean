import SheetScript.Host.Error
import SheetScript.Sheet.Cell

/-!
# Documents

Batches run on a document that can be anything with the calls of a `Host`. All calls of one batch lie
between `start` and `commit`. An address without a sheet name means the active sheet. Reads report
the first cell of a block, writes change every cell of it.

- `Call`: a call on a document with state `σ`. A call that fails may still have changed the document.
- `Host`: the calls.
-/

namespace SheetScript

open Grid

/-- A call on a document with state `σ`. -/
abbrev Call (σ : Type) (α : Type) : Type :=
  ExceptT Failure (StateM σ) α

/-- A used cell with its address. -/
structure PlacedCell where
  address : Address
  cell : Cell
deriving DecidableEq, Repr

/-- A chart as a document lists it. -/
structure ChartEntry where
  name : String
  title : String
deriving DecidableEq, Repr

/-- What a document can be asked to do. -/
structure Host (σ : Type) where
  /-- Open a session. -/
  start : Call σ Unit
  /-- Make everything since `start` final. -/
  commit : Call σ Unit
  value : Address → Call σ String
  setValue : Address → String → Call σ Unit
  /-- The formula of a cell, or its value if it has none. -/
  formula : Address → Call σ String
  setFormula : Address → String → Call σ Unit
  bold : Address → Call σ Bool
  setBold : Address → Bool → Call σ Unit
  /-- The fill colour, empty if there is none. -/
  fill : Address → Call σ String
  setFill : Address → String → Call σ Unit
  clear : Address → Call σ Unit
  select : Address → Call σ Unit
  /-- Insert lines on the active sheet. -/
  insert : Span → Shift → Call σ Unit
  /-- Delete lines on the active sheet. -/
  delete : Span → Shift → Call σ Unit
  /-- Copy the first block onto the second. -/
  copy : Address → Address → Call σ Unit
  /-- The used cells of a block. -/
  snapshot : Address → Call σ (List PlacedCell)
  addSheet : String → Call σ Unit
  /-- The name of a sheet as it is stored, or the name of the active sheet. -/
  sheetName : Option String → Call σ String
  renameSheet : String → String → Call σ Unit
  deleteSheet : String → Call σ Unit
  activateSheet : String → Call σ Unit
  /-- Add a chart of a kind, a source and a title to the active sheet; its name is the result. -/
  addChart : String → Address → String → Call σ String
  /-- The charts of the active sheet. -/
  charts : Call σ (List ChartEntry)
  deleteChart : String → Call σ Unit
  /-- Sort the rows of a block by one of its columns, counted from zero. -/
  sort : Address → Nat → Bool → Call σ Unit

end SheetScript
