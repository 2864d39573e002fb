import SheetScript.Command.Verb

/-!
# Commands

A command has a kind, arguments and the line it was read from. Besides the verbs there are two kinds
that cannot run: a row macro with unusable arguments, and a well-formed line with an unknown verb.

- `Kind`, `Kind.ofName`, `Kind.name`: kinds and their names.
- `Command.wire`: the one-line form `TYPE|a|b`.
- `Command.plain`: a command whose line is its own wire form.
-/

namespace SheetScript

/-- The kind of a command. -/
inductive Kind where
  | verb (v : Verb)
  /-- A row macro that could not be expanded. -/
  | failed
  /-- No verb has this name. -/
  | unknown (name : String)
deriving DecidableEq, Repr

namespace Kind

/-- The name of the kind for row macros that could not be expanded. -/
def failedName : String := "ERROR"

/-- The kind with a name, in any case and with blanks around it. -/
def ofName (name : String) : Kind :=
  let upper := Text.upperAscii (Text.trim name)
  match Verb.ofName? upper with
  | some v => .verb v
  | none => if upper = failedName then .failed else .unknown upper

/-- The name of a kind. -/
def name : Kind → String
  | verb v => v.name
  | failed => failedName
  | unknown name => name

/-- The verb of a kind that has one. -/
def verb? : Kind → Option Verb
  | verb v => some v
  | _ => none

/-- Whether commands of a kind stand for several others. -/
def isMacro (k : Kind) : Bool :=
  k.verb?.any Verb.isMacro

end Kind

/-- A command as it was read, or as it was made to undo another one. -/
@[ext] structure Command where
  kind : Kind
  args : List String
  /-- What it is shown as: the line it was read from, or what the step is for. -/
  label : String
deriving DecidableEq, Repr

namespace Command

/-- The one-line form of a kind with arguments. -/
def wireForm (kind : Kind) (args : List String) : String :=
  "|".intercalate (kind.name :: args)

/-- The one-line form of a command. -/
def wire (c : Command) : String :=
  wireForm c.kind c.args

/-- A command labelled with its own one-line form. -/
def ofKind (kind : Kind) (args : List String) : Command :=
  ⟨kind, args, wireForm kind args⟩

/-- A command with a verb, labelled with its own one-line form. -/
def plain (verb : Verb) (args : List String) : Command :=
  ofKind (.verb verb) args

/-- The command that stands for a macro line that could not be expanded. -/
def failure (reason label : String) : Command :=
  ⟨.failed, [reason], label⟩

/-- Whether a command undoes the last batch. -/
def isUndo (c : Command) : Bool :=
  c.kind == .verb .undo

end Command

/-- Whether a batch is nothing but one command to undo the last batch. -/
def isLoneUndo : List Command → Bool
  | [only] => only.isUndo
  | _ => false

end SheetScript
