import SheetScript.Command.Stored
import SheetScript.Turn

/-!
# Reports of turns

A turn is reported as a record: its prose, its commands, how far it got, and then what that entails.
-/

namespace SheetScript

/-- The entries of a report that say how far a turn got. -/
def TurnStatus.entries : TurnStatus → List (String × Value)
  | .noCommands => [("status", .text "no_commands")]
  | .rejected messages =>
    [("status", .text "rejected"), ("errors", .items (messages.map .text))]
  | .ready => [("status", .text "ready")]
  | .executed outcome =>
    [("status", .text "executed"), ("success", .flag outcome.success),
      ("executed", .number outcome.executed), ("errors", .items (outcome.errors.map .text))]

/-- The report of a turn. -/
def Turn.report (t : Turn) : Value :=
  .map <| [("prose", .text t.prose), ("commands", .items (t.commands.map Command.toValue))] ++
    t.status.entries

end SheetScript
