import SheetScript.Command.Check
import SheetScript.Command.RowMacro
import SheetScript.Proofs.Traps

/-!
# Commands, argument by argument

Commands come with any number of arguments, and those of a loaded history were never checked. Here every
argument is looked up by its index, which traps if there is none. How many there must be is said in the
vocabulary, far from where they are looked up, and is enough for all of them.

- `Trapping.decode`, `decode_eq`: the operation of a command.
- `Trapping.issues`, `issues_eq`: the problems of a batch.
- `Trapping.expand`, `expand_eq`: the commands a line stands for, with the rows below others counted up
  in 32 bits.
-/

namespace SheetScript

open Grid

namespace Trapping

/-! ## Arguments -/

/-- The argument at an index. -/
def argAt (args : List String) (i : Nat) : Run DecodeError String :=
  liftM (itemAt args i)

/-- The address in the argument at an index. -/
def addressAt (args : List String) (i : Nat) : Run DecodeError Address := do
  reached (Operation.address (← argAt args i))

/-- The sheet name in the argument at an index. -/
def sheetNameAt (args : List String) (i : Nat) : Run DecodeError String := do
  reached (Operation.sheetName (← argAt args i))

/-- The lines in the first argument, where a verb needs them there. -/
def linesOf (shape : ArgShape) (args : List String) : Run DecodeError (Option Span) :=
  match shape with
  | .free => return none
  | .rowSpan => return some (← reached (Operation.rowSpan (← argAt args 0)))
  | .columnSpan => return some (← reached (Operation.columnSpan (← argAt args 0)))

/-- The lines of a verb that works on lines. -/
def theLines (lines : Option Span) : Run DecodeError Span :=
  match lines with
  | some lines => pure lines
  | none => throwThe Trap .deadBranch

/-- The operation of a verb with enough arguments, given the lines that the first of them names. -/
def ofVerb (verb : Verb) (args : List String) (lines : Option Span) : Run DecodeError Operation :=
  match verb with
  | .setValue => return .setValue (← addressAt args 0) (← argAt args 1)
  | .setFormula => return .setFormula (← addressAt args 0) (← argAt args 1)
  | .formatBold =>
    return .formatBold (← addressAt args 0) (Operation.isWord (← argAt args 1) "true")
  | .formatColor => return .formatColor (← addressAt args 0) (← argAt args 1)
  | .formatFill => return .formatFill (← addressAt args 0) (← argAt args 1)
  | .clear => return .clear (← addressAt args 0)
  | .select => return .select (← addressAt args 0)
  | .insertRows | .insertColumns => return .insertLines (← theLines lines)
  | .deleteRows | .deleteColumns => return .deleteLines (← theLines lines)
  | .copy => return .copy (← addressAt args 0) (← addressAt args 1)
  | .sort =>
    return .sort (← addressAt args 0) (← reached (Operation.sortKey (← argAt args 1)))
      (!Operation.isWord (← argAt args 2) "false")
  | .createSheet => return .createSheet (← sheetNameAt args 0)
  | .deleteSheet => return .deleteSheet (← sheetNameAt args 0)
  | .renameSheet =>
    match args with
    | [new] => return .renameSheet none (← reached (Operation.sheetName new))
    | old :: new :: _ =>
      return .renameSheet (some (← reached (Operation.sheetName old)))
        (← reached (Operation.sheetName new))
    | [] => throwThe Trap .deadBranch
  | .activateSheet => return .activateSheet (← sheetNameAt args 0)
  | .createChart =>
    return .createChart (← argAt args 0) (← addressAt args 1) (Operation.chartTitle args[2]?)
  | .deleteChart => return .deleteChart (← argAt args 0)
  | .deleteAllCharts => return .deleteAllCharts
  | .copyRow | .moveRow | .swapRows | .undo => throwThe Trap .deadBranch

/-- The operation of a command. How many arguments there are is checked once, before any of them is
looked at. -/
def decode (c : Command) : Run DecodeError Operation :=
  match c.kind with
  | .failed => throw (.failedMacro (c.args.head?.getD "invalid command"))
  | .unknown name => throw (.unknownVerb name)
  | .verb verb =>
    if verb = .undo then throw .undoInBatch
    else if verb.isMacro then throw (.unexpandedMacro verb)
    else if c.args.length < verb.signature.minArgs then throw (.tooFewArgs verb)
    else do ofVerb verb c.args (← linesOf verb.signature.shape c.args)

@[simp] theorem argAt_cons_zero (a : String) (args : List String) : argAt (a :: args) 0 = pure a :=
  rfl

@[simp] theorem argAt_cons_succ (a : String) (args : List String) (i : Nat) :
    argAt (a :: args) (i + 1) = argAt args i := rfl

/-- Once there are enough arguments, all those that are looked at are there. -/
theorem ofVerb_eq {verb : Verb} {args : List String} (hundo : verb ≠ .undo)
    (hplain : verb.isMacro = false) (hargs : verb.signature.minArgs ≤ args.length) :
    (do ofVerb verb args (← linesOf verb.signature.shape args)) =
      reached (Operation.ofVerb verb args) := by
  cases verb
  case undo => exact absurd rfl hundo
  case copyRow | moveRow | swapRows => cases hplain
  case deleteAllCharts => rfl
  case clear | select | createSheet | deleteSheet | activateSheet | deleteChart =>
    match args, hargs with
    | a :: rest, _ =>
      simp [Verb.signature, linesOf, ofVerb, Operation.ofVerb, addressAt, sheetNameAt]
  case insertRows | deleteRows | insertColumns | deleteColumns =>
    match args, hargs with
    | a :: rest, _ => simp [Verb.signature, linesOf, ofVerb, Operation.ofVerb, theLines]
  case renameSheet =>
    match args, hargs with
    | [a], _ => simp [Verb.signature, linesOf, ofVerb, Operation.ofVerb]
    | a :: b :: rest, _ => simp [Verb.signature, linesOf, ofVerb, Operation.ofVerb]
  case sort =>
    match args, hargs with
    | a :: b :: c :: rest, _ =>
      simp [Verb.signature, linesOf, ofVerb, Operation.ofVerb, addressAt]
  case setValue | setFormula | formatBold | formatColor | formatFill | copy | createChart =>
    match args, hargs with
    | a :: b :: rest, _ =>
      simp [Verb.signature, linesOf, ofVerb, Operation.ofVerb, addressAt, List.head?_eq_getElem?]

/-- The check is needed for this. -/
example : ofVerb .clear [] none = throwThe Trap .missingItem := rfl

/-- A verb without enough arguments is reported as such, whichever of them are there. -/
theorem ofVerb_of_lt {verb : Verb} {args : List String} (hundo : verb ≠ .undo)
    (hplain : verb.isMacro = false) (hargs : args.length < verb.signature.minArgs) :
    Operation.ofVerb verb args = throw (.tooFewArgs verb) := by
  cases verb
  case undo => exact absurd rfl hundo
  case copyRow | moveRow | swapRows => cases hplain
  case deleteAllCharts => cases hargs
  case sort => match args, hargs with | [], _ | [_], _ | [_, _], _ => rfl
  case setValue | setFormula | formatBold | formatColor | formatFill | copy | createChart =>
    match args, hargs with | [], _ | [_], _ => rfl
  all_goals match args, hargs with | [], _ => rfl

/-- Every argument that is read is there: the number of arguments is checked first. -/
theorem decode_eq (c : Command) : decode c = reached (Operation.decode c) := by
  rw [decode, Operation.decode]
  cases c.kind with
  | failed => rfl
  | unknown name => rfl
  | verb verb =>
    dsimp only
    split
    next hundo => rw [hundo]; rfl
    next hundo =>
      split
      next hplain =>
        cases verb <;> first | rfl | cases hplain
      next hplain =>
        rw [Bool.not_eq_true] at hplain
        split
        next hargs => rw [ofVerb_of_lt hundo hplain hargs, reached_throw]
        next hargs => exact ofVerb_eq hundo hplain (Nat.le_of_not_lt hargs)

/-! ## Problems of a batch -/

/-- The problem of one command, if it has one. -/
def issueOf? (position : Nat) (c : Command) : Except Trap (Option Issue) := do
  match ← (decode c).run with
  | .ok _ => return none
  | .error cause => return some ⟨position, cause, c.label, c.kind.issueKind⟩

/-- The problems of the commands from a place on. -/
def issuesFrom (position : Nat) : List Command → Except Trap (List Issue)
  | [] => return []
  | c :: cs => return (← issueOf? position c).toList ++ (← issuesFrom (position + 1) cs)

/-- The problems of a batch. -/
def issues (batch : List Command) : Except Trap (List Issue) :=
  if isLoneUndo batch then return [] else issuesFrom 1 batch

theorem issueOf?_eq (position : Nat) (c : Command) :
    issueOf? position c = pure (SheetScript.issueOf? position c) := by
  rw [issueOf?, decode_eq, SheetScript.issueOf?]
  show (match Operation.decode c with | .ok _ => _ | .error _ => _) = _
  cases Operation.decode c <;> rfl

/-- The positions of refused commands are counted without a trap. -/
theorem issuesFrom_eq (position : Nat) (batch : List Command) :
    issuesFrom position batch = pure (SheetScript.issuesFrom position batch) := by
  induction batch generalizing position with
  | nil => rfl
  | cons c cs ih => rw [issuesFrom, issueOf?_eq, pure_bind, ih, pure_bind, SheetScript.issuesFrom]

theorem issues_eq (batch : List Command) : issues batch = pure (SheetScript.issues batch) := by
  rw [issues, SheetScript.issues, issuesFrom_eq]
  split <;> rfl

/-! ## Row macros -/

/-- The row below a row, if the grid has one. -/
def nextRow (row : Nat) : Except Trap (Option Nat) :=
  if row < maxRows then return some (← add32 row 1) else return none

/-- The rows that the first two arguments name. -/
def rowPair (args : List String) : Except Trap (Option (Nat × Nat)) := do
  match RowMacro.rowNumber? (← itemAt args 0) with
  | none => return none
  | some first =>
    match RowMacro.rowNumber? (← itemAt args 1) with
    | none => return none
    | some second => return some (first, second)

/-- The commands of a macro with two row arguments, or one that says why there are none. -/
def withRows (args : List String) (label tooFew : String)
    (commands : Nat → Nat → Except Trap (Option (List Command))) : Except Trap (List Command) :=
  if args.length < 2 then return [.failure tooFew label]
  else do
    match ← rowPair args with
    | none => return [.failure "Invalid row numbers" label]
    | some (a, b) => return (← commands a b).getD [.failure "Invalid row numbers" label]

/-- The row that a moved row takes, behind row `target` or in front of it. -/
def rowBeside (target : Nat) (after : Bool) : Except Trap (Option Nat) :=
  if after then nextRow target else return some target

/-- Move row `source` into a new row inserted at `insertAt`. -/
def moveInto (source insertAt : Nat) : Except Trap (Option (List Command)) :=
  if source < insertAt then return some (RowMacro.moveDown source insertAt)
  else return (← nextRow source).map (RowMacro.moveUp · insertAt)

/-- Move row `source` behind row `target`, or in front of it. -/
def moveRow (source target : Nat) (after : Bool) : Except Trap (Option (List Command)) := do
  match ← rowBeside target after with
  | none => return none
  | some insertAt => moveInto source insertAt

/-- Swap two rows by way of a scratch row below both. -/
def swapRows (a b : Nat) : Except Trap (Option (List Command)) :=
  return (← nextRow (max a b)).map (RowMacro.swapThrough a b)

/-- The commands that a line with a kind and arguments stands for. -/
def expand (kind : Kind) (args : List String) (label : String) : Except Trap (List Command) :=
  match kind with
  | .verb .moveRow =>
    withRows args label "MOVE_ROW requires source and target rows"
      fun source target => moveRow source target (RowMacro.goesAfter args[2]?)
  | .verb .copyRow =>
    withRows args label "COPY_ROW requires source and target rows"
      fun source target => return some [RowMacro.copyRowTo source target label]
  | .verb .swapRows => withRows args label "SWAP_ROWS requires two row numbers" swapRows
  | _ => return [⟨kind, args, label⟩]

/-- A row with one below it is not the last, so its number can be counted up. -/
theorem nextRow_eq (row : Nat) : nextRow row = pure (RowMacro.nextRow? row) := by
  rw [nextRow, RowMacro.nextRow?]
  split
  next hlt =>
    rw [add32_eq (add_le_max32 (Nat.le_of_lt hlt) (by decide))]
    rfl
  next => rfl

/-- The row that an insertion pushes on is looked for with a check, so nothing is added past the edge. -/
theorem moveInto_eq (source insertAt : Nat) :
    moveInto source insertAt = pure (RowMacro.moveInto? source insertAt) := by
  rw [moveInto, RowMacro.moveInto?, nextRow_eq]
  split <;> rfl

/-- So a move is expanded without a trap. -/
theorem moveRow_eq (source target : Nat) (after : Bool) :
    moveRow source target after = pure (RowMacro.moveRow? source target after) := by
  cases after with
  | true =>
    have hbehind : rowBeside target true = pure (RowMacro.nextRow? target) := nextRow_eq target
    rw [moveRow, hbehind, pure_bind]
    show _ = pure ((RowMacro.nextRow? target).bind (RowMacro.moveInto? source))
    cases RowMacro.nextRow? target with
    | none => rfl
    | some insertAt => exact moveInto_eq source insertAt
  | false => exact moveInto_eq source target

/-- And so is a swap. -/
theorem swapRows_eq (a b : Nat) : swapRows a b = pure (RowMacro.swapRows? a b) := by
  rw [swapRows, nextRow_eq]
  rfl

/-- Two row numbers are read from the first two arguments, which are there. -/
theorem rowPair_cons_cons (first second : String) (rest : List String) :
    rowPair (first :: second :: rest) =
      pure (do return (← RowMacro.rowNumber? first, ← RowMacro.rowNumber? second)) := by
  rw [rowPair, itemAt_eq rfl, pure_bind]
  cases RowMacro.rowNumber? first with
  | none => rfl
  | some a =>
    rw [itemAt_eq rfl]
    show (match RowMacro.rowNumber? second with | none => _ | some second => _) = _
    cases RowMacro.rowNumber? second <;> rfl

/-- Both row arguments are there once there are two arguments. -/
theorem withRows_eq {args : List String} {commands : Nat → Nat → Except Trap (Option (List Command))}
    {commands? : Nat → Nat → List String → Option (List Command)} (label tooFew : String)
    (h : ∀ a b, commands a b = pure (commands? a b (args.drop 2))) :
    withRows args label tooFew commands =
      pure (RowMacro.withRows args label tooFew commands?) := by
  match args with
  | [] | [_] => rfl
  | first :: second :: rest =>
    rw [withRows, if_neg (by simp), rowPair_cons_cons, pure_bind, RowMacro.withRows]
    cases RowMacro.rowNumber? first with
    | none => rfl
    | some a =>
      cases RowMacro.rowNumber? second with
      | none => rfl
      | some b =>
        show (do return (← commands a b).getD _) = _
        rw [h]
        rfl

/-- No line traps when it is expanded, whatever its arguments are. -/
theorem expand_eq (kind : Kind) (args : List String) (label : String) :
    expand kind args label = pure (SheetScript.expand kind args label) := by
  cases kind with
  | failed => rfl
  | unknown name => rfl
  | verb verb =>
    cases verb
    case moveRow =>
      refine withRows_eq label _ fun source target => ?_
      rw [moveRow_eq, List.head?_drop]
    case copyRow => exact withRows_eq label _ fun _ _ => rfl
    case swapRows => exact withRows_eq label _ swapRows_eq
    all_goals rfl

end Trapping

end SheetScript
