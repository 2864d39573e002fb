import SheetScript.Text.Blank
import SheetScript.Text.Lower

/-!
# The vocabulary

Every command starts with a verb. The vocabulary says for each verb what it is about, how many
arguments it needs at least, and what shape the first one has.

- `Verb`, `Verb.all`, `Verb.name`: the verbs, in the order of the vocabulary.
- `Verb.signature`: the entry of a verb.
- `Verb.ofName?`, `Verb.ofBareLine?`: the verb with a name, and the verb a whole line stands for.
- `ofName?_name`: each verb is found under its name.
-/

namespace SheetScript

/-- What commands can do. -/
inductive Verb where
  | setValue
  | setFormula
  | formatBold
  | formatColor
  | formatFill
  | clear
  | select
  | copy
  | sort
  | deleteRows
  | insertRows
  | deleteColumns
  | insertColumns
  | copyRow
  | moveRow
  | swapRows
  | createSheet
  | deleteSheet
  | renameSheet
  | activateSheet
  | createChart
  | deleteChart
  | deleteAllCharts
  | undo
deriving DecidableEq, Repr

/-- What a verb is about. -/
inductive Family where
  | cellWrite
  | format
  | range
  | structural
  | sheet
  | chart
  /-- Verbs that stand for several commands on rows. -/
  | rowMacro
  | control
deriving DecidableEq, Repr

/-- The shape the first argument must have. -/
inductive ArgShape where
  | free
  | rowSpan
  | columnSpan
deriving DecidableEq, Repr

/-- An entry of the vocabulary. -/
structure Signature where
  family : Family
  minArgs : Nat
  shape : ArgShape := .free
  /-- The verb is a whole line on its own, without arguments. -/
  bare : Bool := false
  /-- How to write the arguments, empty for a bare verb. -/
  arguments : String := ""
deriving DecidableEq, Repr

namespace Verb

/-- The verbs in the order of the vocabulary. -/
def all : List Verb :=
  [setValue, setFormula, formatBold, formatColor, formatFill, clear, select, copy, sort,
    deleteRows, insertRows, deleteColumns, insertColumns, copyRow, moveRow, swapRows, createSheet,
    deleteSheet, renameSheet, activateSheet, createChart, deleteChart, deleteAllCharts, undo]

/-- The name of a verb. -/
def name : Verb → String
  | setValue => "SET_VALUE"
  | setFormula => "SET_FORMULA"
  | formatBold => "FORMAT_BOLD"
  | formatColor => "FORMAT_COLOR"
  | formatFill => "FORMAT_FILL"
  | clear => "CLEAR"
  | select => "SELECT"
  | copy => "COPY"
  | sort => "SORT"
  | deleteRows => "DELETE_ROWS"
  | insertRows => "INSERT_ROWS"
  | deleteColumns => "DELETE_COLUMNS"
  | insertColumns => "INSERT_COLUMNS"
  | copyRow => "COPY_ROW"
  | moveRow => "MOVE_ROW"
  | swapRows => "SWAP_ROWS"
  | createSheet => "CREATE_SHEET"
  | deleteSheet => "DELETE_SHEET"
  | renameSheet => "RENAME_SHEET"
  | activateSheet => "ACTIVATE_SHEET"
  | createChart => "CREATE_CHART"
  | deleteChart => "DELETE_CHART"
  | deleteAllCharts => "DELETE_ALL_CHARTS"
  | undo => "UNDO"

/-- The entry of a verb. -/
def signature : Verb → Signature
  | setValue => { family := .cellWrite, minArgs := 2, arguments := "|address|value" }
  | setFormula => { family := .cellWrite, minArgs := 2, arguments := "|address|formula" }
  | formatBold => { family := .format, minArgs := 2, arguments := "|address|true/false" }
  | formatColor => { family := .format, minArgs := 2, arguments := "|address|color" }
  | formatFill => { family := .format, minArgs := 2, arguments := "|address|color" }
  | clear => { family := .range, minArgs := 1, arguments := "|address" }
  | select => { family := .range, minArgs := 1, arguments := "|address" }
  | copy => { family := .range, minArgs := 2, arguments := "|source|target" }
  | sort => { family := .range, minArgs := 3, arguments := "|range|column|ascending" }
  | deleteRows =>
    { family := .structural, minArgs := 1, shape := .rowSpan, arguments := "|5:5" }
  | insertRows =>
    { family := .structural, minArgs := 1, shape := .rowSpan, arguments := "|5:5" }
  | deleteColumns =>
    { family := .structural, minArgs := 1, shape := .columnSpan, arguments := "|B:B" }
  | insertColumns =>
    { family := .structural, minArgs := 1, shape := .columnSpan, arguments := "|B:B" }
  | copyRow => { family := .rowMacro, minArgs := 2, arguments := "|source|target" }
  | moveRow => { family := .rowMacro, minArgs := 2, arguments := "|source|target|after/before" }
  | swapRows => { family := .rowMacro, minArgs := 2, arguments := "|row|row" }
  | createSheet => { family := .sheet, minArgs := 1, arguments := "|name" }
  | deleteSheet => { family := .sheet, minArgs := 1, arguments := "|name" }
  | renameSheet => { family := .sheet, minArgs := 1, arguments := "|[old|]new" }
  | activateSheet => { family := .sheet, minArgs := 1, arguments := "|name" }
  | createChart => { family := .chart, minArgs := 2, arguments := "|type|range|title" }
  | deleteChart => { family := .chart, minArgs := 1, arguments := "|title" }
  | deleteAllCharts => { family := .chart, minArgs := 0, bare := true }
  | undo => { family := .control, minArgs := 0, bare := true }

/-- How a command with a verb is written. -/
def usage (v : Verb) : String :=
  v.name ++ v.signature.arguments

/-- Whether commands with a verb stand for several others. -/
def isMacro (v : Verb) : Bool :=
  v.signature.family == .rowMacro

/-- The verb with a name in upper case. -/
def ofName? (name : String) : Option Verb :=
  all.find? (·.name == name)

/-- The bare verb that a whole line stands for, in any case. -/
def ofBareLine? (line : String) : Option Verb :=
  all.find? fun v => v.signature.bare && v.name == Text.upperAscii line

theorem mem_all (v : Verb) : v ∈ all := by
  cases v <;> decide

/-- Each verb is found under its name. -/
theorem ofName?_name (v : Verb) : ofName? v.name = some v := by
  cases v <;> decide

end Verb

end SheetScript
