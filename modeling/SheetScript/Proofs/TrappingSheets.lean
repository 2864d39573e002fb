import SheetScript.Proofs.MovedRows
import SheetScript.Proofs.Traps
import SheetScript.Workbook.Host

/-!
# Cells that move, step by step

Insertions, deletions, copies and sorts work out new places for the cells of a sheet. Here each sum, each
difference and each place is checked, as is every block that is looked up, and the cells end up where
they end up without the checks.

- `Trapping.relocate`: moves whose steps can trap.
- `insertedAt_eq`, `deletedAt_eq`: the place of a cell when lines are inserted or deleted.
- `pasteBlock_eq`: a copy, which takes distances in the source and adds them to the target.
- `moveRows_eq`, `sortRows?_eq`: a sort, which adds the place of a row among all rows to the first row.
-/

namespace SheetScript

open Grid

namespace Trapping

/-! ## Whole lines -/

/-- Move each cell in use to a new position, or drop it. -/
def relocate (cells : Cells) (f : Position → Except Trap (Option Position)) : Except Trap Cells := do
  let moved ← cells.toList.mapM fun e => return (← f e.1).map fun q => (q, e.2)
  return .ofList moved.reduceOption

/-- The entries that have a place, found entry by entry. -/
theorem reduceOption_map_eq_filterMap {α β : Type} {f : α → Option β} {l : List α} :
    (l.map f).reduceOption = l.filterMap f :=
  List.filterMap_map

/-- Cells move as they do without traps, if none of them traps. -/
theorem relocate_eq {cells : Cells} {f : Position → Except Trap (Option Position)}
    {g : Position → Option Position} (h : ∀ p, f p = pure (g p)) :
    relocate cells f = pure (cells.relocate g) := by
  rw [relocate, mapM_eq (g := fun e => (g e.1).map fun q => (q, e.2)), pure_bind,
    reduceOption_map_eq_filterMap]
  · rfl
  · intro e _
    rw [h, pure_bind]

/-- Where a cell goes when `n` lines are inserted. -/
def insertedAt (lines : Span) (n : Nat) (p : Position) : Except Trap (Option Position) :=
  match lines.axis with
  | .rows =>
    if p.row < lines.first then return some p
    else do
      let row ← add32 p.row n
      if row ≤ maxRows then return some (← place row p.col) else return none
  | .columns =>
    if p.col < lines.first then return some p
    else do
      let col ← add32 p.col n
      if col ≤ maxColumns then return some (← place p.row col) else return none

/-- Where a cell goes when `n` lines are deleted. -/
def deletedAt (lines : Span) (n : Nat) (p : Position) : Except Trap (Option Position) :=
  match lines.axis with
  | .rows =>
    if p.row < lines.first then return some p
    else if p.row ≤ lines.last then return none
    else return some (← place (← sub p.row n) p.col)
  | .columns =>
    if p.col < lines.first then return some p
    else if p.col ≤ lines.last then return none
    else return some (← place p.row (← sub p.col n))

/-- A position that is known to be on the grid is placed there. -/
theorem some_place_eq {row col : Nat} (hrow : 1 ≤ row ∧ row ≤ maxRows)
    (hcol : 1 ≤ col ∧ col ≤ maxColumns) :
    (return some (← place row col)) = (pure (Position.at? row col) : Except Trap _) := by
  have h : Position.at? row col = some ⟨row, col, hrow, hcol⟩ := dif_pos ⟨hrow, hcol⟩
  rw [place_eq h, h, pure_bind]

/-- The sum fits, and a line that is not past the edge is one of the grid. -/
theorem insertedAt_eq (lines : Span) (p : Position) :
    insertedAt lines lines.count p = pure (Sheet.insertedAt lines p) := by
  have hrow := p.row_mem
  have hcol := p.col_mem
  have hcount := lines.count_le
  rw [insertedAt, Sheet.insertedAt]
  cases lines.axis with
  | rows =>
    have hsum := add32_eq (add_le_max32 hrow.2 hcount)
    dsimp only
    split
    · rfl
    · rw [hsum, pure_bind]
      split
      next hmax => exact some_place_eq ⟨by omega, hmax⟩ hcol
      next hmax => rw [Position.at?_eq_none_iff.mpr (by omega)]
  | columns =>
    have hsum := add32_eq (add_le_max32 (le_maxRows_of_le_maxColumns hcol.2) hcount)
    dsimp only
    split
    · rfl
    · rw [hsum, pure_bind]
      split
      next hmax => exact some_place_eq hrow ⟨by omega, hmax⟩
      next hmax => rw [Position.at?_eq_none_iff.mpr (by omega)]

/-- A line behind those that are deleted is larger than their count, so it stays on the grid. -/
theorem deletedAt_eq (lines : Span) (p : Position) :
    deletedAt lines lines.count p = pure (Sheet.deletedAt lines p) := by
  have hrow := p.row_mem
  have hcol := p.col_mem
  have hordered := lines.ordered
  have hcount := lines.first_add_count
  rw [deletedAt, Sheet.deletedAt]
  cases lines.axis with
  | rows =>
    dsimp only
    split
    · rfl
    · split
      · rfl
      -- what lies behind the lines has all of them before it
      · rw [sub_eq (by omega), pure_bind]
        exact some_place_eq (by omega) hcol
  | columns =>
    dsimp only
    split
    · rfl
    · split
      · rfl
      · rw [sub_eq (by omega), pure_bind]
        exact some_place_eq hrow (by omega)

/-! ## Copies -/

/-- The cells in use within a block, row by row. They are looked up from its first row to its last. -/
def within (cells : Cells) (b : Block) : Except Trap (List (Position × Cell)) :=
  if b.top ≤ b.bottom then pure (cells.within b) else throw .reversedRange

theorem within_eq (cells : Cells) (b : Block) : within cells b = pure (cells.within b) :=
  if_pos b.rows_ordered.2

/-- The cells in use within a block with their distances from its first cell. -/
def offsets (cells : Cells) (b : Block) : Except Trap (List (Nat × Nat × Cell)) := do
  (← within cells b).mapM fun e => return (← sub e.1.row b.top, ← sub e.1.col b.left, e.2)

/-- Where the cell with some distances from the first cell of a block goes when the block is copied to
`corner`: nowhere if that is outside the footprint. -/
def pastedAt (corner : Position) (footprint : Block) (e : Nat × Nat × Cell) :
    Except Trap (Option (Position × Cell)) := do
  let row ← add32 corner.row e.1
  let col ← add32 corner.col e.2.1
  if (footprint.top ≤ row ∧ row ≤ footprint.bottom) ∧
      (footprint.left ≤ col ∧ col ≤ footprint.right) then
    return some (← place row col, e.2.2)
  else return none

/-- Replace the block of the size of `source` at `corner` by the cells that `origin` has in
`source`. -/
def pasteBlock (s : Sheet) (source : Block) (origin : Cells) (corner : Position) :
    Except Trap Sheet := do
  let block ← offsets origin source
  let footprint ← moveTo source corner
  let pasted ← block.mapM (pastedAt corner footprint)
  let cleared := s.cells.keep fun p => !footprint.contains p
  return { s with cells := cleared.setAll pasted.reduceOption }

/-- A cell with its distances from the first cell of a block. -/
def offsetFrom (b : Block) (e : Position × Cell) : Nat × Nat × Cell :=
  (e.1.row - b.top, e.1.col - b.left, e.2)

theorem mem_within {cells : Cells} {b : Block} {e : Position × Cell} (h : e ∈ cells.within b) :
    b.contains e.1 = true :=
  (List.mem_filter.mp h).2

/-- A cell of a block lies below and to the right of its corner, so the distances can be taken. -/
theorem offsets_eq (cells : Cells) (b : Block) :
    offsets cells b = pure ((cells.within b).map (offsetFrom b)) := by
  rw [offsets, within_eq, pure_bind]
  refine mapM_eq fun e he => ?_
  obtain ⟨hrow, hcol⟩ := Block.contains_iff.mp (mem_within he)
  rw [sub_eq hrow.1, pure_bind, sub_eq hcol.1, pure_bind, offsetFrom]

/-- A cell of the source falls within the footprint just when its new place is on the grid. -/
theorem within_moveTo_iff {source : Block} {dr dc : Nat} (hdr : dr < source.height)
    (hdc : dc < source.width) (corner : Position) :
    (((source.moveTo corner).top ≤ corner.row + dr ∧
          corner.row + dr ≤ (source.moveTo corner).bottom) ∧
        ((source.moveTo corner).left ≤ corner.col + dc ∧
          corner.col + dc ≤ (source.moveTo corner).right)) ↔
      (1 ≤ corner.row + dr ∧ corner.row + dr ≤ maxRows) ∧
        (1 ≤ corner.col + dc ∧ corner.col + dc ≤ maxColumns) := by
  have hrow := corner.row_mem
  have hcol := corner.col_mem
  simp only [Block.moveTo]
  omega

theorem pastedAt_eq {source : Block} {e : Position × Cell} (h : source.contains e.1 = true)
    (corner : Position) :
    pastedAt corner (source.moveTo corner) (offsetFrom source e) =
      pure ((Sheet.copiedTo source corner e.1).map fun q => (q, e.2)) := by
  obtain ⟨p, c⟩ := e
  obtain ⟨hrow, hcol⟩ := Block.contains_iff.mp h
  dsimp only at hrow hcol
  have hdr : p.row - source.top < source.height := by rw [Block.height]; omega
  have hdc : p.col - source.left < source.width := by rw [Block.width]; omega
  have hrowSum := add_le_max32 corner.row_mem.2 (Nat.le_trans (Nat.le_of_lt hdr) source.height_le)
  have hcolSum := add_le_max32 (le_maxRows_of_le_maxColumns corner.col_mem.2)
    (le_maxRows_of_le_maxColumns (Nat.le_trans (Nat.le_of_lt hdc) source.width_le))
  have hin := within_moveTo_iff hdr hdc corner
  rw [offsetFrom, pastedAt, add32_eq hrowSum, pure_bind, add32_eq hcolSum, pure_bind,
    Sheet.copiedTo, if_pos h]
  cases hplace : Position.at? (corner.row + (p.row - source.top))
      (corner.col + (p.col - source.left)) with
  | some q =>
    obtain ⟨hqrow, hqcol⟩ := Position.at?_eq_some_iff.mp hplace
    rw [if_pos (hin.mpr ⟨hqrow ▸ q.row_mem, hqcol ▸ q.col_mem⟩), place_eq hplace]
    rfl
  | none =>
    rw [if_neg (hin.not.mpr (Position.at?_eq_none_iff.mp hplace))]
    rfl

/-- A copy is made without a trap. -/
theorem pasteBlock_eq (s : Sheet) (source : Block) (origin : Cells) (corner : Position) :
    pasteBlock s source origin corner = pure (s.pasteBlock source origin corner) := by
  have hpasted : ((origin.within source).map (offsetFrom source)).mapM
      (pastedAt corner (source.moveTo corner)) =
        pure ((origin.within source).map fun e =>
          (Sheet.copiedTo source corner e.1).map fun q => (q, e.2)) := by
    rw [List.mapM_map]
    exact mapM_eq fun e he => pastedAt_eq (mem_within he) corner
  rw [pasteBlock, offsets_eq, pure_bind, moveTo_eq, pure_bind, hpasted, pure_bind,
    reduceOption_map_eq_filterMap]
  rfl

/-! ## Sorts -/

/-- Move the rows of a block to their places. Each row goes to the place it has among all rows, those that
are listed first. -/
def moveRows (cells : Cells) (b : Block) (sorted : List Nat) : Except Trap Cells :=
  relocate cells fun p =>
    if b.contains p then do
      let row ← add32 b.top (← to32 ((b.listedFirst sorted).idxOf p.row))
      return some (← place row p.col)
    else return some p

/-- Sort the rows of a block by one of its columns. That the keys are in no order is no trap. -/
def sortRows? (cells : Cells) (b : Block) (keyColumn : Nat) (ascending : Bool) :
    Except Trap (Option Cells) :=
  match cells.rowOrder? b keyColumn ascending with
  | some sorted => return some (← moveRows cells b sorted)
  | none => return none

/-- The place of a row among all rows of a block is added to the first row, and is one of the block. -/
theorem moveRows_eq {b : Block} {sorted : List Nat} (hsorted : b.Lists sorted) (cells : Cells) :
    moveRows cells b sorted = pure (cells.moveRows b sorted) := by
  rw [moveRows, Cells.moveRows]
  refine relocate_eq fun p => ?_
  have hordered := b.rows_ordered
  have hwithin := b.rows_within
  split
  next hin =>
    -- the place is one of as many as the block has rows
    have hrow := (Block.contains_iff.mp hin).1
    have hplace := Cells.sortedRow_eq hsorted (Block.mem_rows.mpr hrow)
    have hsorted := Cells.sortedRow_within hsorted hrow
    rw [hplace] at hsorted ⊢
    have hsum := add_le_max32 (Nat.le_trans hordered.2 hwithin)
      (show (b.listedFirst sorted).idxOf p.row ≤ maxRows by omega)
    rw [to32_eq (by omega), pure_bind, add32_eq hsum, pure_bind]
    exact some_place_eq (by omega) p.col_mem
  next => rfl

/-- So a sort moves its rows without a trap, once they have been put in order. -/
theorem sortRows?_eq (cells : Cells) (b : Block) (keyColumn : Nat) (ascending : Bool) :
    sortRows? cells b keyColumn ascending = pure (cells.sortRows? b keyColumn ascending) := by
  rw [sortRows?, Cells.sortRows?]
  cases hsorted : cells.rowOrder? b keyColumn ascending with
  | none => rfl
  | some sorted =>
    simp only [moveRows_eq (Cells.lists_rowOrder? hsorted), pure_bind]
    rfl

end Trapping

end SheetScript
