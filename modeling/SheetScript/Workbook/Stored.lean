import SheetScript.Sheet.Stored
import SheetScript.Workbook.Basic

/-!
# Stored workbooks

A workbook is stored as a record of its sheets, the number of the active sheet and the selection.
-/

namespace SheetScript

open Grid

namespace Grid.Address

/-- An address as a data tree. -/
def toValue (a : Address) : Value :=
  .map [("sheet", (a.sheet.map Value.text).getD .null), ("reference", .text a.reference)]

/-- The fields of an address. -/
def fields : List (Value.Field Address) := [
  .optional "sheet" (Value.asOptional Value.asText) fun sheet a => { a with sheet },
  .required "reference" Value.asText fun reference a => { a with reference }]

/-- The address a data tree stands for. -/
def ofValue : Value → Except DataError Address :=
  Value.readRecord "struct Address" fields ⟨none, ""⟩

end Grid.Address

namespace Workbook

/-- A workbook as a data tree. -/
def toValue (w : Workbook) : Value :=
  .map <| [("sheets", .items (w.sheets.map Sheet.toValue)), ("active", .number w.active)] ++
    match w.selection with
    | none => []
    | some a => [("selection", a.toValue)]

/-- The fields of a workbook. -/
def fields : List (Value.Field Workbook) := [
  .required "sheets" (Value.asList Sheet.ofValue) fun sheets w => { w with sheets },
  .optional "active" Value.asCount fun active w => { w with active },
  .optional "selection" (Value.asOptional Address.ofValue) fun selection w => { w with selection }]

/-- The workbook a data tree stands for. -/
def ofValue : Value → Except DataError Workbook :=
  Value.readRecord "struct Workbook" fields { sheets := [] }

end Workbook

end SheetScript
