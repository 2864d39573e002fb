import SheetScript.Command.Operation
import SheetScript.Host.Basic
import SheetScript.Text.Lower

/-!
# Operations and their inverses

Each operation is carried out by calls on the document, and most record the commands that undo it.
What those need to know is read before anything is written. Clearing, selecting, deleting, sorting
and activating a sheet record nothing.

- `findChart?`: the chart a search term means.
- `Operation.perform`: the calls for an operation; its result is the inverse.
-/

namespace SheetScript

open Grid

/-! ## The search for a chart -/

/-- Whether one text occurs within another. -/
def occursIn (term : List Char) : List Char → Bool
  | [] => term.isEmpty
  | c :: rest => term.isPrefixOf (c :: rest) || occursIn term rest

/-- Whether a lower-case term is the name or the title of a chart. -/
def ChartEntry.isNamed (term : List Char) (c : ChartEntry) : Bool :=
  Text.lowerChars c.name.toList == term || Text.lowerChars c.title.toList == term

/-- Whether the title of a chart contains a lower-case term. -/
def ChartEntry.mentions (term : List Char) (c : ChartEntry) : Bool :=
  c.title != "" && occursIn term (Text.lowerChars c.title.toList)

/-- The chart a term means, in any case: the first one with that name or title, or else the first one
whose title contains the term. -/
def findChart? (charts : List ChartEntry) (term : String) : Option ChartEntry :=
  let term := Text.lowerChars (Text.trimChars term.toList)
  charts.find? (·.isNamed term) <|> charts.find? (·.mentions term)

/-! ## Inverses -/

/-- Why an operation was not carried out. -/
inductive StepFailure where
  | host (cause : Failure)
  /-- No chart was found for a search term. -/
  | noChart (term : String)
deriving DecidableEq, Repr

/-- One operation on a document with state `σ`. -/
abbrev Step (σ : Type) (α : Type) : Type :=
  ExceptT StepFailure (StateM σ) α

/-- A call as part of a step. -/
def call {σ α : Type} (c : Call σ α) : Step σ α :=
  ExceptT.adapt .host c

/-- The commands that put one used cell back onto a blank one. -/
def restoreCell (placed : PlacedCell) : List Command :=
  let place := placed.address.text
  let contents := match placed.cell.formula with
    | some formula => [Command.plain .setFormula [place, formula]]
    | none =>
      if placed.cell.value = "" then [] else [Command.plain .setValue [place, placed.cell.value]]
  let weight :=
    if placed.cell.bold then [Command.plain .formatBold [place, "true"]] else []
  let fill :=
    if placed.cell.fill = "" then [] else [Command.plain .formatFill [place, placed.cell.fill]]
  contents ++ weight ++ fill

/-- The commands that put a block back as it was; none if it has more used cells than the limit. -/
def restoreBlock (target : Address) (limit : Nat) (cells : List PlacedCell) : List Command :=
  if limit < cells.length then []
  else Command.plain .clear [target.text] :: cells.flatMap restoreCell

/-- The command that puts the contents of a cell back: its formula if that differs from its value,
else its value. -/
def restoreContents (place : Address) (value formula : String) : Command :=
  if formula = value then .plain .setValue [place.text, value]
  else .plain .setFormula [place.text, formula]

/-- The name of a truth value. -/
def flagText (flag : Bool) : String :=
  if flag then "true" else "false"

namespace Operation

/-- Add a sheet. A name that is taken is no failure, but then there is nothing to undo. -/
def performCreateSheet {σ : Type} (host : Host σ) (name : String) : Step σ (List Command) :=
  tryCatchThe StepFailure
    (do
      call (host.addSheet name)
      return [.plain .deleteSheet [name]])
    (fun failure =>
      match failure with
      | .host (.error (.alreadyExists _)) => return []
      | other => throw other)

/-- Carry out an operation. The result is the inverse: commands that undo it, in the order to run
them. -/
def perform {σ : Type} (host : Host σ) (copyLimit : Option Nat) :
    Operation → Step σ (List Command)
  | setValue place value => do
    let oldValue ← call (host.value place)
    let oldFormula ← call (host.formula place)
    call (host.setValue place value)
    return [restoreContents place oldValue oldFormula]
  | setFormula place formula => do
    let old ← call (host.formula place)
    call (host.setFormula place formula)
    return [.plain .setFormula [place.text, old]]
  | formatBold place bold => do
    let old ← call (host.bold place)
    call (host.setBold place bold)
    return [.plain .formatBold [place.text, flagText old]]
  | formatColor place color => do
    let old ← call (host.fill place)
    call (host.setFill place color)
    return [.plain .formatColor [place.text, old]]
  | formatFill place color => do
    let old ← call (host.fill place)
    call (host.setFill place color)
    return [.plain .formatFill [place.text, old]]
  | clear place => do
    call (host.clear place)
    return []
  | select place => do
    call (host.select place)
    return []
  | insertLines lines => do
    call (host.insert lines lines.insertShift)
    let verb := match lines.axis with
      | .rows => Verb.deleteRows
      | .columns => Verb.deleteColumns
    return [.plain verb [lines.text]]
  | deleteLines lines => do
    call (host.delete lines lines.deleteShift)
    return []
  | copy source target => do
    let restore ← match copyLimit with
      | some limit => do
        let cells ← call (host.snapshot target)
        pure (restoreBlock target limit cells)
      | none => pure []
    call (host.copy source target)
    return restore
  | sort place key ascending => do
    call (host.sort place key ascending)
    return []
  | createSheet name => performCreateSheet host name
  | deleteSheet name => do
    call (host.deleteSheet name)
    return []
  | renameSheet old new => do
    let stored ← call (host.sheetName old)
    call (host.renameSheet stored new)
    return [.plain .renameSheet [new, stored]]
  | activateSheet name => do
    call (host.activateSheet name)
    return []
  | createChart kind source title => do
    let name ← call (host.addChart kind source title)
    return [.plain .deleteChart [name]]
  | deleteChart term => do
    let charts ← call host.charts
    match findChart? charts term with
    | some found => call (host.deleteChart found.name)
    | none => throw (.noChart term)
    return []
  | deleteAllCharts => do
    let charts ← call host.charts
    charts.reverse.forM fun c => call (host.deleteChart c.name)
    return []

end Operation

end SheetScript
