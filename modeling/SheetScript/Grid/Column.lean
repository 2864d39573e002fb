import SheetScript.Text.Numeral

/-!
# Column letters

Columns are numbered from one and written in letters: `A` is 1, `Z` is 26, `AA` is 27. The letters
are the digits 1 to 26 of a numeral in base 26 without a zero.

- `columnLetters`: the letters of a column.
- `columnOfLetters?`: the column of some letters, in either case, when the grid has it. The number is
  built up letter by letter in 32 bits.
- `lettersValue_columnLetters`: the letters of a column stand for that column.
-/

namespace SheetScript.Grid

/-- The last row of the grid. -/
def maxRows : Nat := 1048576

/-- The last column of the grid, `XFD`. -/
def maxColumns : Nat := 16384

/-- The letter for a digit from 1 to 26. -/
def letterOfDigit (d : Nat) : Char :=
  Char.ofNat (64 + d)

/-- The digit a letter stands for, in either case. -/
def digitOfLetter (c : Char) : Nat :=
  c.toUpper.toNat - 64

/-- The letters of a column; there are none for zero. -/
def columnLetters (n : Nat) : List Char :=
  if n = 0 then [] else columnLetters ((n - 1) / 26) ++ [letterOfDigit ((n - 1) % 26 + 1)]
termination_by n
decreasing_by omega

/-- The number some letters stand for in base 26 without a zero. -/
def lettersValue (cs : List Char) : Nat :=
  cs.foldl (fun n c => 26 * n + digitOfLetter c) 0

/-- A number, if it fits 32 bits. -/
def fits32? (n : Nat) : Option Nat :=
  if n ≤ Text.max32 then some n else none

/-- The number of some letters with one more behind them, when the others stand for `n`. Only a letter is
taken, and neither the shifted number nor the sum may leave 32 bits. -/
def appendLetter? (n : Nat) (c : Char) : Option Nat :=
  if c.isAlpha then do
    let shifted ← fits32? (26 * n)
    fits32? (shifted + digitOfLetter c)
  else none

/-- The column of some ASCII letters, when there are letters and the grid has that column. -/
def columnOfLetters? (cs : List Char) : Option Nat :=
  if cs = [] then none else (cs.foldlM appendLetter? 0).filter (· ≤ maxColumns)

/-- The column a text names, when it is made of ASCII letters and the grid has that column. -/
def columnIndex? (s : String) : Option Nat :=
  columnOfLetters? s.toList

/-- The name of a column. -/
def columnName (n : Nat) : String :=
  String.ofList (columnLetters n)

@[simp] theorem toList_columnName (n : Nat) : (columnName n).toList = columnLetters n :=
  String.toList_ofList

@[simp] theorem columnLetters_zero : columnLetters 0 = [] := by
  rw [columnLetters]; rfl

theorem columnLetters_of_pos {n : Nat} (h : 0 < n) :
    columnLetters n = columnLetters ((n - 1) / 26) ++ [letterOfDigit ((n - 1) % 26 + 1)] := by
  rw [columnLetters, if_neg (by omega)]

theorem digitOfLetter_letterOfDigit :
    ∀ d < 27, 1 ≤ d → digitOfLetter (letterOfDigit d) = d := by
  decide

theorem isAlpha_letterOfDigit : ∀ d < 27, 1 ≤ d → (letterOfDigit d).isAlpha = true := by
  decide

@[simp] theorem lettersValue_append_singleton (cs : List Char) (c : Char) :
    lettersValue (cs ++ [c]) = 26 * lettersValue cs + digitOfLetter c := by
  simp [lettersValue]

/-- The letters of a column stand for that column. -/
@[simp] theorem lettersValue_columnLetters (n : Nat) : lettersValue (columnLetters n) = n := by
  induction n using Nat.strongRecOn with
  | ind n ih =>
    rcases Nat.eq_zero_or_pos n with rfl | h
    · simp [lettersValue]
    · rw [columnLetters_of_pos h, lettersValue_append_singleton, ih _ (by omega),
        digitOfLetter_letterOfDigit _ (by omega) (by omega)]
      omega

end SheetScript.Grid
