import SheetScript.Command.Operation

/-!
# Checking a batch

A batch runs only if every command of it is an operation. All problems are reported, not only the
first. A batch that is nothing but one `UNDO` is fine.

- `Issue`: a problem with one command; `Issue.message` words it.
- `issues`: the problems of a batch, in the order of its commands.
-/

namespace SheetScript

/-- What sort of problem a command has. -/
inductive IssueKind where
  /-- A row macro that could not be expanded. -/
  | expansion
  /-- Arguments that do not fit the verb. -/
  | validation
  /-- A name that is no verb. -/
  | unknown
deriving DecidableEq, Repr

/-- A problem with one command of a batch. -/
structure Issue where
  /-- The place of the command in its batch, counted from one. -/
  position : Nat
  cause : DecodeError
  label : String
  kind : IssueKind
deriving DecidableEq, Repr

/-- The wording of a problem, with the place and the label of the command. -/
def Issue.message (i : Issue) : String :=
  "Command " ++ i.position.repr ++ ": " ++ i.cause.message ++ " (" ++ i.label ++ ")"

/-- The sort of problem that commands of a kind have. -/
def Kind.issueKind : Kind → IssueKind
  | .failed => .expansion
  | .unknown _ => .unknown
  | .verb _ => .validation

/-- The problem of one command, if it has one. -/
def issueOf? (position : Nat) (c : Command) : Option Issue :=
  match Operation.decode c with
  | .ok _ => none
  | .error cause => some ⟨position, cause, c.label, c.kind.issueKind⟩

/-- The problems of the commands from a place on. -/
def issuesFrom (position : Nat) : List Command → List Issue
  | [] => []
  | c :: cs => (issueOf? position c).toList ++ issuesFrom (position + 1) cs

/-- The problems of a batch. -/
def issues (batch : List Command) : List Issue :=
  if isLoneUndo batch then [] else issuesFrom 1 batch

end SheetScript
