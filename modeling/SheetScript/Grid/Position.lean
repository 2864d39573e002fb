import Std.Data.ExtTreeMap
import SheetScript.Grid.Column
import SheetScript.Text.Blank
import SheetScript.Text.Numeral

/-!
# Cell positions

A position is a row and a column of the grid, both counted from one. Positions are ordered row by row
and written in A1 notation: the letters of the column, then the number of the row.

- `Position.at?`: the position at a row and a column, if the grid has it.
- `Position.text`, `Position.parse?`: A1 notation. A dollar sign may stand before either part.
- The order is transitive and lawful, so that positions can be keys of a sorted map.
-/

namespace SheetScript.Grid

/-- A cell position within the grid. -/
@[ext] structure Position where
  row : Nat
  col : Nat
  row_mem : 1 ≤ row ∧ row ≤ maxRows
  col_mem : 1 ≤ col ∧ col ≤ maxColumns
deriving DecidableEq, Repr

namespace Position

/-- The position at a row and a column, if the grid has it. -/
def at? (row col : Nat) : Option Position :=
  if h : (1 ≤ row ∧ row ≤ maxRows) ∧ (1 ≤ col ∧ col ≤ maxColumns) then
    some ⟨row, col, h.1, h.2⟩
  else none

theorem at?_eq_some_iff {row col : Nat} {p : Position} :
    at? row col = some p ↔ p.row = row ∧ p.col = col := by
  unfold at?
  constructor
  · intro h
    split at h
    · cases h; exact ⟨rfl, rfl⟩
    · cases h
  · rintro ⟨rfl, rfl⟩
    rw [dif_pos ⟨p.row_mem, p.col_mem⟩]

@[simp] theorem at?_row_col (p : Position) : at? p.row p.col = some p :=
  at?_eq_some_iff.mpr ⟨rfl, rfl⟩

/-! ## The order, row by row -/

/-- Row first, then column. -/
def order : Position → Position → Ordering :=
  compareLex (compareOn Position.row) (compareOn Position.col)

instance : Ord Position := ⟨order⟩

instance : Std.TransOrd Position :=
  inferInstanceAs (Std.TransCmp (compareLex (compareOn Position.row) (compareOn Position.col)))

instance : Std.LawfulEqOrd Position where
  eq_of_compare {p q} h := by
    have hlex : (compare p.row q.row).then (compare p.col q.col) = .eq := h
    rw [Ordering.then_eq_eq] at hlex
    exact Position.ext (Std.LawfulEqOrd.eq_of_compare hlex.1)
      (Std.LawfulEqOrd.eq_of_compare hlex.2)

/-! ## A1 notation -/

/-- A1 notation of a position. -/
def chars (p : Position) : List Char :=
  columnLetters p.col ++ Nat.toDigits 10 p.row

/-- A1 notation of a position. -/
def text (p : Position) : String :=
  String.ofList p.chars

/-- A text without one dollar sign at its start. -/
def dropDollar : List Char → List Char
  | '$' :: cs => cs
  | cs => cs

/-- The position some A1 text without surrounding blanks names: one to three letters, then digits,
each with an optional dollar sign before it. -/
def ofChars? (cs : List Char) : Option Position :=
  let unmarked := dropDollar cs
  let letters := unmarked.takeWhile Char.isAlpha
  if letters.length ≤ 3 then do
    let col ← columnOfLetters? letters
    let row ← Text.digits? (dropDollar (unmarked.dropWhile Char.isAlpha))
    at? row col
  else none

/-- The position a text names in A1 notation, such as `B12` or `$B$12`. -/
def parse? (s : String) : Option Position :=
  ofChars? (Text.trimChars s.toList)

end Position

end SheetScript.Grid
