import SheetScript.Command.Check
import SheetScript.Editor.Inverse
import SheetScript.History.Basic
import SheetScript.Settings

/-!
# Running batches

An editor runs batches on a document and keeps what is needed to undo them. The commands of a batch
run in order within one session. A command that the document refuses is reported and the batch goes
on; when the session itself fails, the batch ends there. Only a batch whose session was committed can
be undone.

- `Outcome`: how many commands took effect, and what went wrong.
- `runCommands`: the commands of a batch, within a session.
- `runBatch`: a whole session. It has no result when a call stops everything; nothing is known about
  the document then.
- `Editor.execute`, `Editor.undo`: the public operations.
-/

namespace SheetScript

/-- What became of a batch. -/
@[ext] structure Outcome where
  /-- How many commands took effect. -/
  executed : Nat := 0
  errors : List String := []
deriving DecidableEq, Repr

/-- Whether nothing went wrong. -/
def Outcome.success (o : Outcome) : Bool :=
  o.errors.isEmpty

/-- An outcome and the inverse of what was done so far. -/
structure Progress where
  outcome : Outcome := {}
  /-- Commands that undo everything done so far, in the order to run them. -/
  inverse : List Command := []
deriving DecidableEq, Repr

namespace Progress

/-- One more command took effect. Its inverse has to run first. -/
def done (p : Progress) (inverse : List Command) : Progress where
  outcome := { p.outcome with executed := p.outcome.executed + 1 }
  inverse := inverse ++ p.inverse

/-- Something went wrong. -/
def report (p : Progress) (message : String) : Progress :=
  { p with outcome := { p.outcome with errors := p.outcome.errors ++ [message] } }

end Progress

/-- The report of a command that did not run. -/
def commandReport (c : Command) (message : String) : String :=
  "Error executing " ++ c.kind.name ++ ": " ++ message

/-- The report of a session that failed. -/
def sessionReport (e : HostError) : String :=
  "Session error: " ++ e.message

/-- How a session went: to its end, or it failed on the way. -/
inductive SessionState where
  | open
  | failed
deriving DecidableEq, Repr

/-- Run the commands of a batch within a session. -/
def runCommands {σ : Type} (host : Host σ) (copyLimit : Option Nat) :
    List Command → Progress → σ → Except Stop (SessionState × Progress × σ)
  | [], progress, s => .ok (.open, progress, s)
  | c :: cs, progress, s =>
    match Operation.decode c with
    | .error cause =>
      runCommands host copyLimit cs (progress.report (commandReport c cause.message)) s
    | .ok operation =>
      match (operation.perform host copyLimit).run s with
      | (.ok inverse, s) => runCommands host copyLimit cs (progress.done inverse) s
      | (.error (.noChart term), s) =>
        runCommands host copyLimit cs (progress.report ("Chart not found: " ++ term)) s
      | (.error (.host (.error e)), s) =>
        if e.isSession then .ok (.failed, progress.report (sessionReport e), s)
        else runCommands host copyLimit cs (progress.report (commandReport c e.message)) s
      | (.error (.host (.stop why)), _) => .error why

/-- Run a batch in a session of its own. The result has the inverse of the batch, which is empty unless
the session was committed. -/
def runBatch {σ : Type} (host : Host σ) (copyLimit : Option Nat) (batch : List Command) (s : σ) :
    Except Stop (Progress × σ) :=
  if batch = [] then .ok ({}, s)
  else
    match host.start.run s with
    | (.error (.stop why), _) => .error why
    | (.error (.error e), s) => .ok (({} : Progress).report (sessionReport e), s)
    | (.ok (), s) =>
      match runCommands host copyLimit batch {} s with
      | .error why => .error why
      | .ok (.failed, progress, s) => .ok ({ progress with inverse := [] }, s)
      | .ok (.open, progress, s) =>
        match host.commit.run s with
        | (.error (.stop why), _) => .error why
        | (.error (.error e), s) =>
          .ok ({ progress.report (sessionReport e) with inverse := [] }, s)
        | (.ok (), s) => .ok (progress, s)

/-- What runs batches and remembers how to undo them. -/
@[ext] structure Editor where
  history : History := .new
  copyLimit : Option Nat := none
deriving DecidableEq, Repr

namespace Editor

/-- An editor with settings and an empty history. -/
def ofSettings (settings : Settings) : Editor where
  history := .withDepth settings.undoDepth
  copyLimit := settings.copyLimit

/-- Undo the newest batch. This is not recorded itself, so another undo goes one batch further back. -/
def undo {σ : Type} (ed : Editor) (host : Host σ) (s : σ) : Except Stop (Outcome × Editor × σ) :=
  match ed.history.pop? with
  | none => .ok ({ errors := ["Nothing to undo"] }, ed, s)
  | some (batch, history) =>
    (runBatch host ed.copyLimit batch s).map fun (progress, s) =>
      (progress.outcome, { ed with history }, s)

/-- Run a batch and record its inverse. A batch that is nothing but one command to undo undoes the
newest batch instead. -/
def execute {σ : Type} (ed : Editor) (host : Host σ) (batch : List Command) (s : σ) :
    Except Stop (Outcome × Editor × σ) :=
  if isLoneUndo batch then ed.undo host s
  else
    (runBatch host ed.copyLimit batch s).map fun (progress, s) =>
      (progress.outcome, { ed with history := ed.history.push progress.inverse }, s)

end Editor

end SheetScript
