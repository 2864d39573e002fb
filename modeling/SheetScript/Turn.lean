import SheetScript.Editor.Basic
import SheetScript.Reply.Basic

/-!
# Turns

A turn takes one reply from its text to an executed batch. The batch runs only if there is a command
in it and no command has a problem.

- `Turn.preview`: a reply, split and checked. Nothing runs.
- `Editor.runTurn`: the same, and then the batch runs if it may.
-/

namespace SheetScript

/-- How far a turn got. -/
inductive TurnStatus where
  | noCommands
  /-- There are problems, so nothing ran. -/
  | rejected (messages : List String)
  /-- The batch may run and has not run yet. -/
  | ready
  | executed (outcome : Outcome)
deriving DecidableEq, Repr

/-- A reply and what became of it. -/
structure Turn where
  prose : String
  commands : List Command
  status : TurnStatus
deriving DecidableEq, Repr

namespace Turn

/-- What becomes of a batch before it runs. -/
def verdict (batch : List Command) : TurnStatus :=
  if batch = [] then .noCommands
  else
    match issues batch with
    | [] => .ready
    | problems => .rejected (problems.map Issue.message)

/-- Split and check a reply. -/
def preview (text : String) : Turn :=
  let reply := Reply.parse text
  ⟨reply.prose, reply.commands, verdict reply.commands⟩

/-- Whether the batch of a turn may run. -/
def isRunnable (t : Turn) : Bool :=
  t.status == .ready

/-- Whether a turn is nothing but one command to undo the last batch. -/
def isUndo (t : Turn) : Bool :=
  isLoneUndo t.commands

/-- What became of the batch, once it ran. -/
def outcome? (t : Turn) : Option Outcome :=
  match t.status with
  | .executed outcome => some outcome
  | _ => none

/-- Whether a turn did what it should: nothing was refused and nothing went wrong. -/
def isClean (t : Turn) : Bool :=
  match t.status with
  | .rejected _ => false
  | .executed outcome => outcome.success
  | .noCommands | .ready => true

end Turn

/-- Take a reply from its text to an executed batch. -/
def Editor.runTurn {σ : Type} (ed : Editor) (host : Host σ) (text : String) (s : σ) :
    Except Stop (Turn × Editor × σ) :=
  let turn := Turn.preview text
  if turn.isRunnable then
    (ed.execute host turn.commands s).map fun (outcome, ed, s) =>
      ({ turn with status := .executed outcome }, ed, s)
  else .ok (turn, ed, s)

end SheetScript
