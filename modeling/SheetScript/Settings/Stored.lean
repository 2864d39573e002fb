import SheetScript.Settings
import SheetScript.Value.Read

/-!
# Stored settings

Settings are stored as a record in which every entry can be left out.
-/

namespace SheetScript.Settings

/-- The fields of settings. -/
def fields : List (Value.Field Settings) := [
  .optional "undo_depth" Value.asCount fun undoDepth s => { s with undoDepth },
  .optional "copy_snapshot_limit" (Value.asOptional Value.asCount) fun copyLimit s =>
    { s with copyLimit }]

/-- The settings a data tree stands for. -/
def ofValue : Value → Except DataError Settings :=
  Value.readRecord "struct Config" fields {}

end SheetScript.Settings
