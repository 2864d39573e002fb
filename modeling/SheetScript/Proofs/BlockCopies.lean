import SheetScript.Proofs.Changes
import SheetScript.Proofs.RowMacros

/-!
# Copying a block

A block is copied as a whole: every cell of the copy is what the cell of the source in the same place was
before, whether the two overlap or not, and no other cell changes. What would stand past the edge of the
grid is left out. There has to be a sheet to copy on.

- `Sheet.getAt_pasteBlock`, `Sheet.get_pasteBlock_of_outside`: the cells of a copy and the other ones.
- `Workbook.copy_resolved`: a copy between the blocks that two addresses name.
-/

namespace SheetScript

open Grid

namespace Sheet

variable {s : Sheet} {b : Block} {origin : Cells} {p : Position} {di dj : Nat}

/-- A cell of a copy is the cell of the source in the same place. -/
theorem getAt_pasteBlock (corner : Position) (hdi : di < b.height) (hdj : dj < b.width)
    (hrow : corner.row + di ≤ maxRows) (hcol : corner.col + dj ≤ maxColumns) :
    (s.pasteBlock b origin corner).cells.getAt (corner.row + di) (corner.col + dj) =
      origin.getAt (b.top + di) (b.left + dj) := by
  have hrows : (b.moveTo corner).top ≤ corner.row + di ∧
      corner.row + di ≤ (b.moveTo corner).bottom := by
    simp only [Block.moveTo]
    omega
  have hcols : (b.moveTo corner).left ≤ corner.col + dj ∧
      corner.col + dj ≤ (b.moveTo corner).right := by
    simp only [Block.moveTo]
    omega
  obtain ⟨q, hq, hin⟩ := Block.exists_at? hrows hcols
  obtain ⟨hqrow, hqcol⟩ := Position.at?_eq_some_iff.mp hq
  rw [← hqrow, ← hqcol, Cells.getAt_row_col, get_pasteBlock, if_pos hin, hqrow, hqcol,
    Nat.add_sub_cancel_left, Nat.add_sub_cancel_left]

/-- A cell that is no cell of the copy is left alone. -/
theorem get_pasteBlock_of_outside (corner : Position)
    (h : ∀ di dj, di < b.height → dj < b.width →
      ¬(p.row = corner.row + di ∧ p.col = corner.col + dj)) :
    (s.pasteBlock b origin corner).cells.get p = s.cells.get p := by
  rw [get_pasteBlock, if_neg]
  intro hin
  rw [Block.contains_iff] at hin
  simp only [Block.moveTo] at hin
  have hheight : 0 < b.height := Nat.succ_pos _
  have hwidth : 0 < b.width := Nat.succ_pos _
  exact h (p.row - corner.row) (p.col - corner.col) (by omega) (by omega) ⟨by omega, by omega⟩

end Sheet

namespace Workbook

variable {w : Workbook} {source target : Address} {i j : Nat} {s t : Sheet} {b b' : Block}

/-- A copy succeeds when both addresses are resolved, to blocks of the same sheet or not. From the first
cell of the target on, the sheet of the target has what the source had before, as far as the grid goes.
All other cells, the other sheets and the rest of the workbook stay as they are. There has to be a sheet
for addresses without a sheet name. -/
theorem copy_resolved (h : w.sheets ≠ [] ∨ source.sheet ≠ none ∨ target.sheet ≠ none)
    (hsource : w.resolve source = .ok (i, b)) (htarget : w.resolve target = .ok (j, b')) :
    ∃ s t cells, w.sheets[i]? = some s ∧ w.sheets[j]? = some t ∧
      (host.copy source target).run w = (.ok (), w.withSheet j { t with cells }) ∧
      (∀ di dj, di < b.height → dj < b.width →
        b'.top + di ≤ maxRows → b'.left + dj ≤ maxColumns →
        cells.getAt (b'.top + di) (b'.left + dj) = s.cells.getAt (b.top + di) (b.left + dj)) ∧
      ∀ p, (∀ di dj, di < b.height → dj < b.width →
        ¬(p.row = b'.top + di ∧ p.col = b'.left + dj)) → cells.get p = t.cells.get p := by
  have hw : w.sheets ≠ [] := by
    rcases h with hw | hname | hname
    · exact hw
    · exact sheets_ne_nil_of_resolve (Or.inr hname) hsource
    · exact sheets_ne_nil_of_resolve (Or.inr hname) htarget
  obtain ⟨s, hs⟩ := names_of_resolve hw hsource
  obtain ⟨t, ht⟩ := names_of_resolve hw htarget
  have hrun := run_act (·.copy source target) w
  rw [hs.copy ht] at hrun
  exact ⟨s, t, _, hs.sheet_eq, ht.sheet_eq, hrun, fun _ _ => Sheet.getAt_pasteBlock b'.topLeft,
    fun _ => Sheet.get_pasteBlock_of_outside b'.topLeft⟩

/-- The second and the third row as a whole. -/
def lastTwoRows : Block :=
  .ofSpan ⟨.rows, 2, 3, by decide, by decide⟩

/-- The second cell of the second row. -/
def innerCell : Block :=
  .ofCorners ⟨2, 2, by decide, by decide⟩ ⟨2, 2, by decide, by decide⟩

/-- Two whole rows are copied one column to the right, so that the copy overlaps them and goes past the
edge of the grid. -/
theorem copy_resolved_threeRows :
    threeRows.sheets ≠ [] ∧
    threeRows.resolve ⟨none, "2:3"⟩ = .ok (0, lastTwoRows) ∧
    threeRows.resolve ⟨none, "B2"⟩ = .ok (0, innerCell) ∧
    ∃ cells,
      (host.copy ⟨none, "2:3"⟩ ⟨none, "B2"⟩).run threeRows =
        (.ok (), threeRows.withSheet 0 { Sheet.threeRows with cells }) ∧
      (cells.getAt 2 2 = { value := "b" } ∧ cells.getAt 3 2 = { value := "c" }) ∧
      ∀ p : Position, p.col = 1 → cells.get p = Sheet.threeRows.cells.get p := by
  have hne : threeRows.sheets ≠ [] := by decide
  have hsource : threeRows.resolve ⟨none, "2:3"⟩ = .ok (0, lastTwoRows) := rfl
  have htarget : threeRows.resolve ⟨none, "B2"⟩ = .ok (0, innerCell) := rfl
  obtain ⟨s, t, cells, hs, ht, hrun, hinside, houtside⟩ := copy_resolved (Or.inl hne) hsource htarget
  obtain rfl : Sheet.threeRows = s := Option.some.inj hs
  obtain rfl : Sheet.threeRows = t := Option.some.inj ht
  have hsecond := hinside 0 0 (by decide) (by decide) (by decide) (by decide)
  have hthird := hinside 1 0 (by decide) (by decide) (by decide) (by decide)
  refine ⟨hne, hsource, htarget, cells, hrun,
    ⟨hsecond.trans (by decide), hthird.trans (by decide)⟩,
    fun p hp => houtside p fun di dj _ _ hcopied => ?_⟩
  have hright : p.col = 2 + dj := hcopied.2
  omega

/-- Without a sheet, two addresses without a sheet name are resolved, and there is nothing to copy from
one to the other. -/
theorem copy_noSheets :
    noSheets.resolve ⟨none, "2:3"⟩ = .ok (0, lastTwoRows) ∧
    noSheets.resolve ⟨none, "B2"⟩ = .ok (0, innerCell) ∧
    (host.copy ⟨none, "2:3"⟩ ⟨none, "B2"⟩).run noSheets = (.error (.stop .noSheet), noSheets) :=
  ⟨rfl, rfl, rfl⟩

end Workbook

end SheetScript
