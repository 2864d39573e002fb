import SheetScript.Value.Basic
import SheetScript.Yaml.Style

/-!
# Writing YAML

Maps and lists are written as blocks. The entries of a map that is a value itself are indented by two
spaces; a list that is a value is not indented, and within a list its items follow the dash on the
same line. Empty maps and lists are written in brackets.

- `Yaml.render`: a data tree as a YAML document.
-/

namespace SheetScript.Yaml

/-- A line end, unless the text ends a line itself. -/
def endLine (cs : List Char) : List Char :=
  if cs.getLast?.any isBreak then cs else cs ++ ['\n']

/-- A text as a value, up to the end of its last line. -/
def textLine (margin : Nat) (s : String) : List Char :=
  endLine ((Style.ofText s).write margin s.toList)

/-- A text as a key. -/
def keyText (s : String) : List Char :=
  (Style.ofKey s).write 0 s.toList

/-- Some lines, the first of which continues a line. -/
def continued (margin : Nat) (blocks : List (List Char)) : List Char :=
  (spaces margin).intercalate blocks

/-- Some lines below the one they belong to. -/
def below (margin : Nat) (blocks : List (List Char)) : List Char :=
  '\n' :: blocks.flatMap (spaces margin ++ ·)

/-- A list without items. -/
def emptyList : List Char := "[]\n".toList

/-- A map without entries. -/
def emptyMap : List Char := "\x7b\x7d\n".toList

/-- A tree that is no map and no list, up to the end of its last line. -/
def scalarLine (margin : Nat) : Value → List Char
  | .null => "null\n".toList
  | .flag b => if b then "true\n".toList else "false\n".toList
  | .number n => endLine (toString n).toList
  | .real negative units => endLine (Number.numeral negative units).toList
  | .scalar s => endLine s.toList
  | .text s => textLine margin s
  | .oddMap => emptyMap
  | .list .. | .map _ => []

mutual

/-- A tree at column `margin`, where it continues a line. -/
def nested (margin : Nat) : Value → List Char
  | .list _ items =>
    if items.isEmpty then emptyList else continued margin (itemBlocks margin items)
  | .map entries =>
    if entries.isEmpty then emptyMap else continued margin (entryBlocks margin entries)
  | v => scalarLine margin v

/-- The value of a key that stands at column `margin`. -/
def afterKey (margin : Nat) : Value → List Char
  | .list _ items =>
    if items.isEmpty then ' ' :: emptyList else below margin (itemBlocks margin items)
  | .map entries =>
    if entries.isEmpty then ' ' :: emptyMap
    else below (margin + 2) (entryBlocks (margin + 2) entries)
  | v => ' ' :: scalarLine (margin + 2) v

/-- The items of a list whose dashes stand at column `margin`. -/
def itemBlocks (margin : Nat) : List Value → List (List Char)
  | [] => []
  | v :: vs => ('-' :: ' ' :: nested (margin + 2) v) :: itemBlocks margin vs

/-- The entries of a map whose keys stand at column `margin`. -/
def entryBlocks (margin : Nat) : List (String × Value) → List (List Char)
  | [] => []
  | (key, v) :: entries => (keyText key ++ ':' :: afterKey margin v) :: entryBlocks margin entries

end

/-- A data tree as a YAML document. -/
def render (v : Value) : String :=
  String.ofList (nested 0 v)

end SheetScript.Yaml
