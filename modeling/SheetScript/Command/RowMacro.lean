import SheetScript.Command.Basic
import SheetScript.Grid.Column
import SheetScript.Text.Numeral

/-!
# Row macros

Moving, copying and swapping rows are not operations of a document. They stand for insertions, copies
and deletions of whole rows, which are worked out from the row numbers alone.

- `rowNumber?`: the row an argument names.
- `moveRow`, `copyRow`, `swapRows`: the commands each macro stands for.
- `expand`: the commands a line stands for. A macro with unusable arguments stands for one command
  that carries the reason.
-/

namespace SheetScript

open Grid

namespace RowMacro

/-- The row of the grid that an argument names. -/
def rowNumber? (arg : String) : Option Nat :=
  (Text.numeral? Text.max32 (Text.trimChars arg.toList)).filter fun n => 1 ≤ n ∧ n ≤ maxRows

/-- The row below a row, if the grid has one. -/
def nextRow? (row : Nat) : Option Nat :=
  if row < maxRows then some (row + 1) else none

/-- A whole row. -/
def wholeRow (row : Nat) : String :=
  row.repr ++ ":" ++ row.repr

/-- Insert a row. -/
def insertRow (row : Nat) (label : String) : Command :=
  ⟨.verb .insertRows, [wholeRow row], label⟩

/-- Delete a row. -/
def deleteRow (row : Nat) (label : String) : Command :=
  ⟨.verb .deleteRows, [wholeRow row], label⟩

/-- Copy a row onto another. -/
def copyRowTo (source target : Nat) (label : String) : Command :=
  ⟨.verb .copy, [wholeRow source, wholeRow target], label⟩

/-- Move row `source`, which lies above row `insertAt` and keeps its place, into a new row inserted
there. -/
def moveDown (source insertAt : Nat) : List Command :=
  [insertRow insertAt s!"[MOVE down] insert row {insertAt.repr}",
    copyRowTo source insertAt s!"[MOVE down] copy {source.repr} -> {insertAt.repr}",
    deleteRow source s!"[MOVE down] delete {source.repr}"]

/-- Move a row into a new row inserted at `insertAt`, which pushes it down to row `shifted`. -/
def moveUp (shifted insertAt : Nat) : List Command :=
  [insertRow insertAt s!"[MOVE up] insert row {insertAt.repr}",
    copyRowTo shifted insertAt s!"[MOVE up] copy {shifted.repr} -> {insertAt.repr}",
    deleteRow shifted s!"[MOVE up] delete {shifted.repr}"]

/-- Move row `source` into a new row inserted at `insertAt`. A row at or below the insertion is pushed
down by it. There is no such command when the pushed row has no room. -/
def moveInto? (source insertAt : Nat) : Option (List Command) :=
  if source < insertAt then some (moveDown source insertAt)
  else (nextRow? source).map fun shifted => moveUp shifted insertAt

/-- Whether a row goes behind the target row: unless a word other than `after` says otherwise. -/
def goesAfter : Option String → Bool
  | some word => Text.sameIgnoringCase (Text.trim word) "after"
  | none => true

/-- Move row `source` behind row `target`, or in front of it. -/
def moveRow? (source target : Nat) (after : Bool) : Option (List Command) := do
  moveInto? source (← if after then nextRow? target else some target)

/-- Swap two rows by way of a scratch row below both. -/
def swapThrough (a b scratch : Nat) : List Command :=
  [insertRow scratch s!"[SWAP] create temp row {scratch.repr}",
    copyRowTo a scratch s!"[SWAP] save row {a.repr}",
    copyRowTo b a s!"[SWAP] {b.repr} -> {a.repr}",
    copyRowTo scratch b s!"[SWAP] temp -> {b.repr}",
    deleteRow scratch s!"[SWAP] delete temp row {scratch.repr}"]

/-- Swap two rows, if there is room for a scratch row below both. -/
def swapRows? (a b : Nat) : Option (List Command) :=
  (nextRow? (max a b)).map (swapThrough a b)

/-- The commands of a macro with two row arguments, or one that says why there are none. -/
def withRows (args : List String) (label tooFew : String)
    (commands? : Nat → Nat → List String → Option (List Command)) : List Command :=
  match args with
  | first :: second :: rest =>
    ((do commands? (← rowNumber? first) (← rowNumber? second) rest) : Option _).getD
      [.failure "Invalid row numbers" label]
  | _ => [.failure tooFew label]

end RowMacro

/-- The commands that a line with a kind and arguments stands for. -/
def expand (kind : Kind) (args : List String) (label : String) : List Command :=
  match kind with
  | .verb .moveRow =>
    RowMacro.withRows args label "MOVE_ROW requires source and target rows"
      fun source target rest => RowMacro.moveRow? source target (RowMacro.goesAfter rest.head?)
  | .verb .copyRow =>
    RowMacro.withRows args label "COPY_ROW requires source and target rows"
      fun source target _ => some [RowMacro.copyRowTo source target label]
  | .verb .swapRows =>
    RowMacro.withRows args label "SWAP_ROWS requires two row numbers"
      fun a b _ => RowMacro.swapRows? a b
  | _ => [⟨kind, args, label⟩]

end SheetScript
