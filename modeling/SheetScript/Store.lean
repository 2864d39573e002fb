import SheetScript.History.Stored
import SheetScript.Settings.Stored
import SheetScript.Workbook.Stored
import SheetScript.Yaml.Printer
import SheetScript.Yaml.Reader

/-!
# Documents in files

Workbooks, histories and settings are kept in text files. A file that is missing stands for a fresh
document; a file that does not fit is an error.

- `Format`: how data trees are written as texts; `Format.yaml` is the format in use.
- `Workbook.save`, `Workbook.load?`, and the same for `History` and `Settings`.
-/

namespace SheetScript

/-- How data trees are written as texts. -/
structure Format where
  render : Value → String
  /-- The tree of a text, if it has the format. -/
  parse? : String → Option Value

/-- YAML, which all documents are kept in. -/
def Format.yaml : Format where
  render := Yaml.render
  parse? := Yaml.parse?

/-- The document in a text. -/
def Format.read? {α : Type} (format : Format) (decode : Value → Except DataError α)
    (text : String) : Option α :=
  (format.parse? text).bind fun v => (decode v).toOption

/-- The text of a workbook. -/
def Workbook.save (format : Format) (w : Workbook) : String :=
  format.render w.toValue

/-- The workbook in a file. -/
def Workbook.load? (format : Format) : Option String → Option Workbook
  | none => some .new
  | some text => format.read? Workbook.ofValue text

/-- The text of a history. -/
def History.save (format : Format) (h : History) : String :=
  format.render h.toValue

/-- The history in a file, cut to a depth. -/
def History.load? (format : Format) (depth : Nat) : Option String → Option History
  | none => some (.withDepth depth)
  | some text => (format.read? History.ofValue text).map (·.setDepth depth)

/-- The settings in a file, which has to be there. -/
def Settings.load? (format : Format) (file : Option String) : Option Settings :=
  file.bind (format.read? Settings.ofValue)

end SheetScript
