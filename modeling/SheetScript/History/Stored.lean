import SheetScript.Command.Stored
import SheetScript.History.Basic

/-!
# Stored histories

A history is stored as a record of its depth and its batches, oldest first.
-/

namespace SheetScript.History

/-- A history as a data tree. -/
def toValue (h : History) : Value :=
  .map [("depth", .number h.depth),
    ("batches", .items (h.batches.map fun batch => .items (batch.map Command.toValue)))]

/-- The fields of a history. -/
def fields : List (Value.Field History) := [
  .required "depth" Value.asCount fun depth h => { h with depth },
  .required "batches" (Value.asList (Value.asList Command.ofValue)) fun batches h =>
    { h with batches }]

/-- The history a data tree stands for, with the depth it was stored with. -/
def ofValue : Value → Except DataError History :=
  Value.readRecord "struct UndoHistory" fields .new

end SheetScript.History
