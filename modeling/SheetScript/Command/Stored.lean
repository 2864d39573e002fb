import SheetScript.Command.Basic
import SheetScript.Value.Read

/-!
# Stored commands

A command is stored as a record of its kind, its arguments and its label.
-/

namespace SheetScript.Command

/-- A command as a data tree. -/
def toValue (c : Command) : Value :=
  .map [("type", .text c.kind.name), ("args", .items (c.args.map .text)),
    ("original", .text c.label)]

/-- The fields of a command. -/
def fields : List (Value.Field Command) := [
  .required "type" Value.asText fun name c => { c with kind := .ofName name },
  .required "args" (Value.asList Value.asText) fun args c => { c with args },
  .required "original" Value.asText fun label c => { c with label }]

/-- The command a data tree stands for. -/
def ofValue : Value → Except DataError Command :=
  Value.readRecord "struct Command" fields ⟨.failed, [], ""⟩

end SheetScript.Command
