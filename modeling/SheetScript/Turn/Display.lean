import SheetScript.Turn

/-!
# Turns as lines of text

- `Outcome.lines`: how many commands ran, and what went wrong.
- `Turn.lines`: the prose, and what became of the commands.
-/

namespace SheetScript

/-- The lines that show what became of a batch. -/
def Outcome.lines (o : Outcome) : List String :=
  (o.executed.repr ++ " command(s) executed" ++ (if o.success then "" else " with errors")) ::
    o.errors.map ("  error: " ++ ·)

namespace Turn

/-- The lines that show how far a turn got. -/
def statusLines (t : Turn) : List String :=
  match t.status with
  | .noCommands => ["no commands"]
  | .rejected messages => "rejected, nothing executed:" :: messages.map ("  " ++ ·)
  | .ready =>
    t.commands.map ("  " ++ ·.label) ++
      ["valid, " ++ t.commands.length.repr ++ " command(s) ready"]
  | .executed outcome => outcome.lines

/-- The lines that show a turn. -/
def lines (t : Turn) : List String :=
  (if t.prose = "" then [] else [t.prose, ""]) ++ t.statusLines

end Turn

end SheetScript
