import SheetScript.Grid.Position
import SheetScript.Grid.Span

/-!
# Rectangular blocks

A reference names a block of cells: one cell, a rectangle given by two opposite corners, whole rows
or whole columns.

- `Block.parse?`: the block a reference names.
- `Block.contains`: which positions lie in a block.
- `Block.positions`: those positions, row by row.
- `Block.moveTo`, `Block.cutTo`: a block at another place, and its part up to a last row and column.
-/

namespace SheetScript.Grid

/-- A rectangle of cells, all sides included. -/
@[ext] structure Block where
  top : Nat
  left : Nat
  bottom : Nat
  right : Nat
  rows_ordered : 1 ≤ top ∧ top ≤ bottom
  columns_ordered : 1 ≤ left ∧ left ≤ right
  rows_within : bottom ≤ maxRows
  columns_within : right ≤ maxColumns
deriving Repr

instance : DecidableEq Block := fun _ _ =>
  decidable_of_decidable_of_iff Block.ext_iff.symm

namespace Block

/-- The block between two opposite corners. -/
def ofCorners (p q : Position) : Block where
  top := min p.row q.row
  left := min p.col q.col
  bottom := max p.row q.row
  right := max p.col q.col
  rows_ordered := ⟨by have := p.row_mem; have := q.row_mem; omega, by omega⟩
  columns_ordered := ⟨by have := p.col_mem; have := q.col_mem; omega, by omega⟩
  rows_within := by have := p.row_mem; have := q.row_mem; omega
  columns_within := by have := p.col_mem; have := q.col_mem; omega

/-- All cells of some whole rows or whole columns. -/
def ofSpan (s : Span) : Block :=
  match s with
  | ⟨.rows, first, last, ordered, within⟩ =>
    ⟨first, 1, last, maxColumns, ordered, by decide, within, Nat.le_refl _⟩
  | ⟨.columns, first, last, ordered, within⟩ =>
    ⟨1, first, maxRows, last, by decide, ordered, Nat.le_refl _, within⟩

/-- The block between the corners on the two sides of a colon; without a colon, one cell. -/
def ofCornerChars? (cs : List Char) : Option Block :=
  match cs.splitOn ':' with
  | [single] => (Position.ofChars? (Text.trimChars single)).map fun p => ofCorners p p
  | [first, second] => do
    let p ← Position.ofChars? (Text.trimChars first)
    let q ← Position.ofChars? (Text.trimChars second)
    return ofCorners p q
  | _ => none

/-- The block that a reference without surrounding blanks names. -/
def ofChars? (cs : List Char) : Option Block :=
  match Span.rowsOfChars? cs with
  | some s => some (ofSpan s)
  | none =>
    match Span.columnsOfChars? cs with
    | some s => some (ofSpan s)
    | none => ofCornerChars? cs

/-- The block a reference names: a cell such as `A1`, a rectangle such as `A1:C3`, whole rows such as
`5:7` or whole columns such as `B:D`. -/
def parse? (s : String) : Option Block :=
  ofChars? (Text.trimChars s.toList)

/-- How many rows a block has. -/
def height (b : Block) : Nat :=
  b.bottom - b.top + 1

/-- How many columns a block has. -/
def width (b : Block) : Nat :=
  b.right - b.left + 1

/-- How many cells a block has. -/
def size (b : Block) : Nat :=
  b.height * b.width

/-- The first cell of a block. -/
def topLeft (b : Block) : Position where
  row := b.top
  col := b.left
  row_mem := ⟨b.rows_ordered.1, Nat.le_trans b.rows_ordered.2 b.rows_within⟩
  col_mem := ⟨b.columns_ordered.1, Nat.le_trans b.columns_ordered.2 b.columns_within⟩

/-- Whether a position lies in a block. -/
def contains (b : Block) (p : Position) : Bool :=
  (b.top ≤ p.row && p.row ≤ b.bottom) && (b.left ≤ p.col && p.col ≤ b.right)

theorem contains_iff {b : Block} {p : Position} :
    b.contains p = true ↔
      (b.top ≤ p.row ∧ p.row ≤ b.bottom) ∧ (b.left ≤ p.col ∧ p.col ≤ b.right) := by
  simp [contains]

/-- A block has a cell in each of its rows and columns. -/
theorem exists_at? {b : Block} {row col : Nat} (hrow : b.top ≤ row ∧ row ≤ b.bottom)
    (hcol : b.left ≤ col ∧ col ≤ b.right) :
    ∃ p, Position.at? row col = some p ∧ b.contains p = true := by
  have hrows := b.rows_ordered
  have hcols := b.columns_ordered
  have hmaxRows := b.rows_within
  have hmaxColumns := b.columns_within
  exact ⟨_, dif_pos ⟨⟨by omega, by omega⟩, by omega, by omega⟩, contains_iff.mpr ⟨hrow, hcol⟩⟩

/-- The rows of a block. -/
def rows (b : Block) : List Nat :=
  List.range' b.top b.height

/-- The positions of a block, row by row. -/
def positions (b : Block) : List Position :=
  (List.range' b.top b.height).flatMap fun row =>
    (List.range' b.left b.width).filterMap fun col => Position.at? row col

/-- The listed positions are those in the block. -/
theorem mem_positions {b : Block} {p : Position} : p ∈ b.positions ↔ b.contains p = true := by
  have hr := b.rows_ordered
  have hc := b.columns_ordered
  rw [contains_iff]
  simp only [positions, List.mem_flatMap, List.mem_filterMap, List.mem_range'_1, height, width,
    Position.at?_eq_some_iff]
  constructor
  · rintro ⟨row, hrow, col, hcol, rfl, rfl⟩
    omega
  · rintro ⟨hrow, hcol⟩
    exact ⟨p.row, by omega, p.col, by omega, rfl, rfl⟩

/-- The block of the same size as `b` whose first cell is `corner`, cut off at the edges of the
grid. -/
def moveTo (b : Block) (corner : Position) : Block where
  top := corner.row
  left := corner.col
  bottom := min (corner.row + b.height - 1) maxRows
  right := min (corner.col + b.width - 1) maxColumns
  rows_ordered := ⟨corner.row_mem.1, by
    have := corner.row_mem
    simp only [height]
    omega⟩
  columns_ordered := ⟨corner.col_mem.1, by
    have := corner.col_mem
    simp only [width]
    omega⟩
  rows_within := Nat.min_le_right _ _
  columns_within := Nat.min_le_right _ _

/-- The part of a block up to a last row and a last column, but at least its first cell. -/
def cutTo (b : Block) (row col : Nat) : Block where
  top := b.top
  left := b.left
  bottom := min b.bottom (max row b.top)
  right := min b.right (max col b.left)
  rows_ordered := ⟨b.rows_ordered.1, by
    have := b.rows_ordered
    omega⟩
  columns_ordered := ⟨b.columns_ordered.1, by
    have := b.columns_ordered
    omega⟩
  rows_within := Nat.le_trans (Nat.min_le_left _ _) b.rows_within
  columns_within := Nat.le_trans (Nat.min_le_left _ _) b.columns_within

end Block

end SheetScript.Grid
