/-!
# Cells and charts

A cell holds a constant or a formula, and a format. A formula is text; nothing evaluates it. A chart is
a note of its kind, its source and its title.
-/

namespace SheetScript

/-- The contents and the format of one cell. -/
@[ext] structure Cell where
  value : String := ""
  formula : Option String := none
  bold : Bool := false
  fill : String := ""
deriving DecidableEq, Repr

namespace Cell

/-- The cell without contents and format. -/
def blank : Cell := {}

/-- Whether a cell has neither contents nor format. -/
def isBlank (c : Cell) : Bool :=
  c == blank

theorem isBlank_iff {c : Cell} : c.isBlank = true ↔ c = blank := by
  simp [isBlank]

@[simp] theorem isBlank_blank : blank.isBlank = true :=
  isBlank_iff.mpr rfl

/-- The text shown for a cell: its formula if it has one, else its value. -/
def shown (c : Cell) : String :=
  c.formula.getD c.value

/-- The text a cell is sorted by: its value, or its formula if the value is empty. -/
def sortText (c : Cell) : String :=
  match c.formula with
  | some f => if c.value = "" then f else c.value
  | none => c.value

/-- A cell with a constant in place of its contents. -/
def withValue (text : String) (c : Cell) : Cell :=
  { c with value := text, formula := none }

/-- A cell with the contents a user typed: a formula if the text starts with an equals sign, else a
constant. -/
def withEntry (text : String) (c : Cell) : Cell :=
  if text.toList.head? = some '=' then { c with value := "", formula := some text }
  else c.withValue text

/-- A cell with another weight. -/
def withBold (bold : Bool) (c : Cell) : Cell :=
  { c with bold }

/-- A cell with another fill colour. -/
def withFill (fill : String) (c : Cell) : Cell :=
  { c with fill }

end Cell

/-- A chart of a sheet. -/
@[ext] structure Chart where
  name : String
  kind : String
  source : String
  title : String
deriving DecidableEq, Repr

end SheetScript
