import SheetScript.Command.Basic
import SheetScript.Grid.Address
import SheetScript.Grid.Span
import SheetScript.Text.Numeral

/-!
# Operations

An operation is a command whose arguments have been understood. Arguments are read here and nowhere
else.

- `Operation`: what a document can be told to do.
- `DecodeError`: why a command is no operation, with its wording.
- `Operation.decode`: the operation of a command. Too few arguments are reported first, then the shape
  of the first one, then the rest from left to right.
-/

namespace SheetScript

open Grid

/-- A command with its arguments understood. -/
inductive Operation where
  | setValue (address : Address) (value : String)
  | setFormula (address : Address) (formula : String)
  | formatBold (address : Address) (bold : Bool)
  | formatColor (address : Address) (color : String)
  | formatFill (address : Address) (color : String)
  | clear (address : Address)
  | select (address : Address)
  | insertLines (lines : Span)
  | deleteLines (lines : Span)
  | copy (source target : Address)
  | sort (address : Address) (key : Nat) (ascending : Bool)
  | createSheet (name : String)
  | deleteSheet (name : String)
  | renameSheet (old : Option String) (new : String)
  | activateSheet (name : String)
  | createChart (kind : String) (source : Address) (title : String)
  | deleteChart (name : String)
  | deleteAllCharts
deriving DecidableEq, Repr

/-- Why a command is no operation. -/
inductive DecodeError where
  /-- A row macro could not be expanded. -/
  | failedMacro (reason : String)
  | unknownVerb (name : String)
  | undoInBatch
  | unexpandedMacro (verb : Verb)
  | tooFewArgs (verb : Verb)
  | badRowSpan
  | badColumnSpan
  | badAddress (cause : AddressError)
  | badSortKey
  | emptySheetName
deriving DecidableEq, Repr

/-- The wording of an error. -/
def DecodeError.message : DecodeError → String
  | failedMacro reason => reason
  | unknownVerb name => "unknown command type " ++ name
  | undoInBatch => "UNDO must be sent on its own"
  | unexpandedMacro verb => verb.name ++ " must be expanded before it can run"
  | tooFewArgs verb =>
    let n := verb.signature.minArgs
    verb.name ++ " requires at least " ++ n.repr ++ (if n = 1 then " argument" else " arguments") ++
      " (" ++ verb.usage ++ ")"
  | badRowSpan => "row range must look like 5:5 or 2:10"
  | badColumnSpan => "column range must look like B:B or A:C"
  | badAddress cause => cause.message
  | badSortKey => "SORT column must be a zero-based number"
  | emptySheetName => "sheet name must not be empty"

namespace Operation

/-- The title of a chart that is created without one. -/
def defaultChartTitle : String := "Chart"

/-- Whether an argument is a given word, in any case and with blanks around it. -/
def isWord (arg word : String) : Bool :=
  Text.sameIgnoringCase (Text.trim arg) word

/-- The address an argument names. -/
def address (arg : String) : Except DecodeError Address :=
  (Address.parse arg).mapError .badAddress

/-- The row span an argument names. -/
def rowSpan (arg : String) : Except DecodeError Span :=
  match Span.rows? arg with
  | some s => pure s
  | none => throw .badRowSpan

/-- The column span an argument names. -/
def columnSpan (arg : String) : Except DecodeError Span :=
  match Span.columns? arg with
  | some s => pure s
  | none => throw .badColumnSpan

/-- The column to sort by that an argument names, counted from zero. -/
def sortKey (arg : String) : Except DecodeError Nat :=
  match Text.numeral? Text.max64 (Text.trimChars arg.toList) with
  | some n => pure n
  | none => throw .badSortKey

/-- Some characters without the quotes at either end. -/
def stripQuotes (cs : List Char) : List Char :=
  ((cs.dropWhile (· == Address.quote)).reverse.dropWhile (· == Address.quote)).reverse

/-- The sheet name in an argument: without the blanks around it, then without the quotes around
it. -/
def sheetName (arg : String) : Except DecodeError String :=
  match stripQuotes (Text.trimChars arg.toList) with
  | [] => throw .emptySheetName
  | cs => pure (String.ofList cs)

/-- The title in the optional argument of a chart. -/
def chartTitle (arg : Option String) : String :=
  match arg with
  | some title => if Text.trim title = "" then defaultChartTitle else title
  | none => defaultChartTitle

/-- The operation of a verb with arguments. Undoing is no operation, row macros must be expanded
first, and every other verb that is left has too few arguments. -/
def ofVerb (verb : Verb) (args : List String) : Except DecodeError Operation :=
  match verb, args with
  | .setValue, place :: value :: _ => return .setValue (← address place) value
  | .setFormula, place :: formula :: _ => return .setFormula (← address place) formula
  | .formatBold, place :: flag :: _ => return .formatBold (← address place) (isWord flag "true")
  | .formatColor, place :: color :: _ => return .formatColor (← address place) color
  | .formatFill, place :: color :: _ => return .formatFill (← address place) color
  | .clear, place :: _ => return .clear (← address place)
  | .select, place :: _ => return .select (← address place)
  | .insertRows, lines :: _ => return .insertLines (← rowSpan lines)
  | .insertColumns, lines :: _ => return .insertLines (← columnSpan lines)
  | .deleteRows, lines :: _ => return .deleteLines (← rowSpan lines)
  | .deleteColumns, lines :: _ => return .deleteLines (← columnSpan lines)
  | .copy, source :: target :: _ => return .copy (← address source) (← address target)
  | .sort, place :: key :: ascending :: _ =>
    return .sort (← address place) (← sortKey key) (!isWord ascending "false")
  | .createSheet, name :: _ => return .createSheet (← sheetName name)
  | .deleteSheet, name :: _ => return .deleteSheet (← sheetName name)
  | .renameSheet, [new] => return .renameSheet none (← sheetName new)
  | .renameSheet, old :: new :: _ =>
    return .renameSheet (some (← sheetName old)) (← sheetName new)
  | .activateSheet, name :: _ => return .activateSheet (← sheetName name)
  | .createChart, kind :: source :: rest =>
    return .createChart kind (← address source) (chartTitle rest.head?)
  | .deleteChart, name :: _ => return .deleteChart name
  | .deleteAllCharts, _ => return .deleteAllCharts
  | .undo, _ => throw .undoInBatch
  | verb, _ => if verb.isMacro then throw (.unexpandedMacro verb) else throw (.tooFewArgs verb)

/-- The operation of a command. -/
def decode (c : Command) : Except DecodeError Operation :=
  match c.kind with
  | .failed => throw (.failedMacro (c.args.head?.getD "invalid command"))
  | .unknown name => throw (.unknownVerb name)
  | .verb verb => ofVerb verb c.args

end Operation

end SheetScript
