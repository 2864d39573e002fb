import SheetScript.Sheet.Basic
import SheetScript.Value.Read

/-!
# Stored sheets

A sheet is stored under the texts of its cells. When it is read back, any text that names a cell will
do, so several entries can mean the same cell; the last of them that is not blank counts.

- `StoredSheet`: a sheet with its cells under texts.
- `StoredSheet.ofSheet`, `StoredSheet.toSheet`: to and from that form.
- `Sheet.toValue`, `Sheet.ofValue`: sheets as data trees.
-/

namespace SheetScript

open Grid

/-- A sheet with its cells under texts. -/
structure StoredSheet where
  name : String
  cells : Std.ExtTreeMap String Cell := ∅
  charts : List Chart := []

namespace StoredSheet

/-- The stored form of a sheet: each cell in use is under its A1 text. -/
def ofSheet (s : Sheet) : StoredSheet where
  name := s.name
  cells := s.cells.toList.foldl (fun acc e => acc.insert e.1.text e.2) ∅
  charts := s.charts

/-- An entry with the position its key names. -/
def place (sheet : String) (entry : String × Cell) : Except DataError (Position × Cell) :=
  match Position.parse? entry.1 with
  | some p => pure (p, entry.2)
  | none => throw (.badCell entry.1 sheet)

/-- The sheet of a stored form. The entries are taken in the order of their keys, and those that are
blank do not count. -/
def toSheet (r : StoredSheet) : Except DataError Sheet := do
  let placed ← r.cells.toList.mapM (place r.name)
  return {
    name := r.name
    cells := .ofList (placed.filter fun e => !e.2.isBlank)
    charts := r.charts }

end StoredSheet

/-! ## Cells -/

namespace Cell

/-- A cell as a data tree, without the parts that are blank. -/
def toValue (c : Cell) : Value :=
  .map <| List.flatten [
    if c.value = "" then [] else [("value", .text c.value)],
    match c.formula with
    | none => []
    | some formula => [("formula", .text formula)],
    if c.bold then [("bold", .flag true)] else [],
    if c.fill = "" then [] else [("fill", .text c.fill)]]

/-- The fields of a cell. -/
def fields : List (Value.Field Cell) := [
  .optional "value" Value.asText fun value c => { c with value },
  .optional "formula" (Value.asOptional Value.asText) fun formula c => { c with formula },
  .optional "bold" Value.asFlag fun bold c => { c with bold },
  .optional "fill" Value.asText fun fill c => { c with fill }]

/-- The cell a data tree stands for. -/
def ofValue : Value → Except DataError Cell :=
  Value.readRecord "struct Cell" fields .blank

end Cell

/-! ## Charts -/

namespace Chart

/-- A chart as a data tree. -/
def toValue (c : Chart) : Value :=
  .map [("name", .text c.name), ("chart_type", .text c.kind), ("source", .text c.source),
    ("title", .text c.title)]

/-- The fields of a chart. -/
def fields : List (Value.Field Chart) := [
  .required "name" Value.asText fun name c => { c with name },
  .required "chart_type" Value.asText fun kind c => { c with kind },
  .required "source" Value.asText fun source c => { c with source },
  .required "title" Value.asText fun title c => { c with title }]

/-- The chart a data tree stands for. -/
def ofValue : Value → Except DataError Chart :=
  Value.readRecord "struct Chart" fields ⟨"", "", "", ""⟩

end Chart

/-! ## Sheets -/

namespace StoredSheet

/-- A stored sheet as a data tree. -/
def toValue (r : StoredSheet) : Value :=
  .map [("name", .text r.name),
    ("cells", .map (r.cells.toList.map fun (key, c) => (key, c.toValue))),
    ("charts", .items (r.charts.map Chart.toValue))]

/-- Cells under texts. Of two entries under one text the later one counts. -/
def cellsOfEntries (entries : List (String × Cell)) : Std.ExtTreeMap String Cell :=
  entries.foldl (fun acc e => acc.insert e.1 e.2) ∅

/-- The fields of a stored sheet. -/
def fields : List (Value.Field StoredSheet) := [
  .required "name" Value.asText fun name r => { r with name },
  .optional "cells" (Value.asMap Cell.ofValue) fun entries r =>
    { r with cells := cellsOfEntries entries },
  .optional "charts" (Value.asList Chart.ofValue) fun charts r => { r with charts }]

/-- The stored sheet a data tree stands for. -/
def ofValue : Value → Except DataError StoredSheet :=
  Value.readRecord "struct SheetRecord" fields { name := "" }

end StoredSheet

namespace Sheet

/-- A sheet as a data tree. -/
def toValue (s : Sheet) : Value :=
  (StoredSheet.ofSheet s).toValue

/-- The sheet a data tree stands for. -/
def ofValue (v : Value) : Except DataError Sheet := do
  (← StoredSheet.ofValue v).toSheet

end Sheet

end SheetScript
