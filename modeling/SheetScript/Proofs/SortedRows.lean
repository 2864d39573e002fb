import Mathlib.Data.List.Nodup
import Mathlib.Data.List.Perm.Subperm
import SheetScript.Proofs.Cells
import SheetScript.Proofs.DriftSort

/-!
# Where sorting takes the rows of a block

A sort lists rows of a block in some order, moves them to the top of the block and the others below them.
Each row that is listed takes one place, so all rows find their places within the block, and no cell
outside it is touched.

- `Grid.Block.Lists`: rows of a block, each listed once; `lists_rowOrder?`: what a sort lists.
- `sortedRow_within`: a row of the block goes to a row of the block.
- `get_moveRows_of_not_contains`: the cells outside the block stay as they are.
- `exists_nan_of_rowOrder?`: a sort has no result only if there are many rows and not-a-number is among
  the keys.
- `Sheet.sortRows?_eq_some`: the rows of the whole block are moved, though of whole lines only the part in
  use is looked at.
-/

namespace SheetScript

open Grid

/-- Whether some numbers are rows of a block, each listed once. -/
structure Grid.Block.Lists (b : Block) (sorted : List Nat) : Prop where
  nodup : sorted.Nodup
  within : ∀ r ∈ sorted, b.top ≤ r ∧ r ≤ b.bottom

theorem Grid.Block.mem_rows {b : Block} {row : Nat} :
    row ∈ b.rows ↔ b.top ≤ row ∧ row ≤ b.bottom := by
  have := b.rows_ordered
  rw [rows, List.mem_range'_1, height]
  omega

namespace Cells

variable {cells : Cells} {b : Block} {keyColumn : Nat} {ascending : Bool} {p : Position}
  {sorted : List Nat} {row : Nat}

/-! ## The rows that are listed -/

/-- A row with a key is a row of the block. -/
theorem row_within_of_mem_keyedRows {x : Nat × SortKey} (h : x ∈ cells.keyedRows b keyColumn) :
    b.top ≤ x.1 ∧ x.1 ≤ b.bottom := by
  obtain ⟨⟨p, c⟩, -, hp⟩ := List.mem_filterMap.mp h
  rw [Option.ite_none_right_eq_some, Option.some.injEq] at hp
  obtain ⟨⟨hin, -⟩, rfl⟩ := hp
  exact (Block.contains_iff.mp hin).1

/-- The key column has one cell in each row, so no row has two keys. -/
theorem nodup_map_fst_keyedRows (cells : Cells) (b : Block) (keyColumn : Nat) :
    ((cells.keyedRows b keyColumn).map Prod.fst).Nodup := by
  have hkeys := cells.nodup_keys_toList
  rw [List.nodup_iff_pairwise_ne, List.pairwise_map] at hkeys ⊢
  refine hkeys.filterMap _ ?_
  rintro ⟨p, c⟩ ⟨q, d⟩ hne x hx y hy
  rw [Option.ite_none_right_eq_some, Option.some.injEq] at hx hy
  obtain ⟨⟨-, hp, -⟩, rfl⟩ := hx
  obtain ⟨⟨-, hq, -⟩, rfl⟩ := hy
  exact fun hrow => hne (Position.ext hrow (hp.trans hq.symm))

/-- The rows with a key are listed. -/
theorem lists_rowOrder (cells : Cells) (b : Block) (keyColumn : Nat) (ascending : Bool) :
    b.Lists (cells.rowOrder b keyColumn ascending) := by
  have hperm : (cells.rowOrder b keyColumn ascending).Perm
      ((cells.keyedRows b keyColumn).map Prod.fst) := (perm_stableSort _ _).map _
  refine ⟨hperm.nodup_iff.mpr (cells.nodup_map_fst_keyedRows b keyColumn), fun r hr => ?_⟩
  obtain ⟨x, hx, rfl⟩ := List.mem_map.mp (hperm.subset hr)
  exact row_within_of_mem_keyedRows hx

theorem map_fst_allKeys (cells : Cells) (b : Block) (keyColumn : Nat) :
    (cells.allKeys b keyColumn).map Prod.fst = b.rows := by
  rw [allKeys, List.map_map]
  exact List.map_id _

/-- What a sort lists are rows of the block. -/
theorem lists_rowOrder? (h : cells.rowOrder? b keyColumn ascending = some sorted) :
    b.Lists sorted := by
  rw [rowOrder?] at h
  split at h
  · cases h
    exact cells.lists_rowOrder b keyColumn ascending
  · obtain ⟨rows, hrows, rfl⟩ := Option.map_eq_some_iff.mp h
    have hperm := (perm_driftSort hrows).map Prod.fst
    rw [map_fst_allKeys] at hperm
    exact ⟨hperm.nodup_iff.mpr List.nodup_range', fun _ hr => Block.mem_rows.mp (hperm.subset hr)⟩

/-! ## The places they take -/

/-- There is one place for each of several numbers from `first` to `last`. -/
theorem length_le_of_nodup {rows : List Nat} {first last : Nat} (hnodup : rows.Nodup)
    (h : ∀ r ∈ rows, first ≤ r ∧ r ≤ last) : rows.length ≤ last + 1 - first := by
  have hsub : rows ⊆ List.range' first (last + 1 - first) := by
    intro r hr
    have := h r hr
    rw [List.mem_range'_1]
    omega
  simpa using (hnodup.subperm hsub).length_le

/-- A row of the block goes to a row of the block. -/
theorem sortedRow_within (hsorted : b.Lists sorted) (hrow : b.top ≤ row ∧ row ≤ b.bottom) :
    b.top ≤ sortedRow b sorted row ∧ sortedRow b sorted row ≤ b.bottom := by
  rw [sortedRow]
  cases hindex : sorted.idxOf? row with
  | some i =>
    obtain ⟨hi, -⟩ := List.findIdx?_eq_some_iff_getElem.mp hindex
    have hlength := length_le_of_nodup hsorted.nodup hsorted.within
    show b.top ≤ b.top + i ∧ b.top + i ≤ b.bottom
    omega
  | none =>
    -- it moves down by the listed rows below it, and there are not more of them than places
    have hbelow : (sorted.filter (row < ·)).length ≤ b.bottom + 1 - (row + 1) := by
      refine length_le_of_nodup (hsorted.nodup.filter _) fun r hr => ?_
      obtain ⟨hr, hlt⟩ := List.mem_filter.mp hr
      exact ⟨of_decide_eq_true hlt, (hsorted.within r hr).2⟩
    rw [← List.countP_eq_length_filter] at hbelow
    show b.top ≤ row + sorted.countP (row < ·) ∧ row + sorted.countP (row < ·) ≤ b.bottom
    omega

/-- Moving the rows of a block leaves the cells outside it as they are. -/
theorem get_moveRows_of_not_contains (hsorted : b.Lists sorted) (h : b.contains p = false) :
    (cells.moveRows b sorted).get p = cells.get p := by
  refine get_relocate_eq ?_ ?_
  · intro q _ hmove
    by_cases hin : b.contains q = true
    · -- what comes from the block stays within the block
      rw [if_pos hin, Position.at?_eq_some_iff] at hmove
      obtain ⟨hrows, hcols⟩ := Block.contains_iff.mp hin
      have hrow := sortedRow_within hsorted hrows
      rw [← hmove.1] at hrow
      rw [← hmove.2] at hcols
      rw [Block.contains_iff.mpr ⟨hrow, hcols⟩] at h
      cases h
    · rw [if_neg hin, Option.some.injEq] at hmove
      rw [hmove]
  · intro habsent
    by_contra hne
    refine habsent p (Ne.symm hne) ?_
    rw [if_neg (by simp [h])]

/-! ## Parts of a block -/

section

variable {b' : Block} (h : ∀ p, cells.get p ≠ .blank → b'.contains p = b.contains p)
include h

/-- Two blocks with the same cells in use have the same rows with a key. -/
theorem keyedRows_congr (keyColumn : Nat) :
    cells.keyedRows b' keyColumn = cells.keyedRows b keyColumn := by
  refine List.filterMap_congr fun ⟨p, c⟩ he => ?_
  obtain ⟨rfl, hused⟩ := mem_toList.mp he
  simp only [h p (Cell.isBlank_eq_false_iff.mp hused)]

/-- The rows of two blocks with the same first row and the same cells in use are moved alike. -/
theorem moveRows_congr (htop : b'.top = b.top) (sorted : List Nat) :
    cells.moveRows b' sorted = cells.moveRows b sorted := by
  refine relocate_congr fun p hp => ?_
  rw [h p hp, sortedRow, sortedRow, htop]

end

/-! ## No order -/

/-- A sort has no result only if there are many rows and not-a-number is among the keys. -/
theorem exists_nan_of_rowOrder? (h : cells.rowOrder? b keyColumn ascending = none) :
    maxInsertion < b.height ∧ ∃ x ∈ cells.keyedRows b keyColumn, x.2 = .number .nan := by
  rw [rowOrder?] at h
  split at h
  · cases h
  next horder => simpa [isOrderly] using horder

end Cells

/-! ## Whole lines -/

namespace Sheet

variable {s : Sheet} {p : Position}

/-- No cell in use lies below or right of the corner of the used area. -/
theorem le_usedCorner? (h : s.cells.get p ≠ .blank) :
    ∃ row col, s.usedCorner? = some (row, col) ∧ p.row ≤ row ∧ p.col ≤ col := by
  have hmem : (p, s.cells.get p) ∈ s.cells.toList :=
    Cells.mem_toList.mpr ⟨rfl, Cell.isBlank_eq_false_iff.mpr h⟩
  obtain ⟨before, after, hsplit⟩ := List.append_of_mem hmem
  rw [usedCorner?, hsplit, List.foldl_append, List.foldl_cons]
  -- the corner takes the cell in, and stays past it from then on
  refine List.foldlRecOn (motive := fun corner => ∃ row col, corner = some (row, col) ∧
    p.row ≤ row ∧ p.col ≤ col) after _ ?_ ?_
  · split
    · exact ⟨_, _, rfl, Nat.le_refl _, Nat.le_refl _⟩
    · exact ⟨_, _, rfl, Nat.le_max_right _ _, Nat.le_max_right _ _⟩
  · rintro _ ⟨row, col, rfl, hrow, hcol⟩ e -
    exact ⟨_, _, rfl, by omega, by omega⟩

/-- The part of whole lines that is sorted starts and ends within them. -/
theorem areaToSort_within (s : Sheet) (reference : String) (b : Block) (keyColumn : Nat) :
    (s.areaToSort reference b keyColumn).top = b.top ∧
      (s.areaToSort reference b keyColumn).bottom ≤ b.bottom := by
  rw [areaToSort]
  split
  · rw [sortArea]
    split <;> exact ⟨rfl, Nat.min_le_left _ _⟩
  · exact ⟨rfl, Nat.le_refl _⟩

/-- The part of a block that is sorted has all its cells in use. -/
theorem contains_areaToSort (h : s.cells.get p ≠ .blank) (reference : String) (b : Block)
    (keyColumn : Nat) : (s.areaToSort reference b keyColumn).contains p = b.contains p := by
  rw [areaToSort]
  split
  · obtain ⟨row, col, hcorner, hrow, hcol⟩ := le_usedCorner? h
    rw [Bool.eq_iff_iff, Block.contains_iff, Block.contains_iff, sortArea, hcorner]
    simp only [Block.cutTo]
    omega
  · rfl

theorem keyedRows_areaToSort (s : Sheet) (reference : String) (b : Block) (keyColumn : Nat) :
    s.cells.keyedRows (s.areaToSort reference b keyColumn) keyColumn =
      s.cells.keyedRows b keyColumn :=
  Cells.keyedRows_congr (fun _ hp => contains_areaToSort hp reference b keyColumn) keyColumn

/-- The rows of the whole block are moved to their places. If they are sorted as if by insertion, the ones
with a key are listed in that order. -/
theorem sortRows?_eq_some {reference : String} {b : Block} {keyColumn : Nat} {ascending : Bool}
    {cells : Cells}
    (h : s.cells.sortRows? (s.areaToSort reference b keyColumn) keyColumn ascending = some cells) :
    ∃ sorted, b.Lists sorted ∧ cells = s.cells.moveRows b sorted ∧
      (s.cells.isOrderly (s.areaToSort reference b keyColumn) keyColumn = true →
        sorted = s.cells.rowOrder b keyColumn ascending) := by
  have hcontains : ∀ p, s.cells.get p ≠ .blank →
      (s.areaToSort reference b keyColumn).contains p = b.contains p :=
    fun p hp => contains_areaToSort hp reference b keyColumn
  obtain ⟨htop, hbottom⟩ := s.areaToSort_within reference b keyColumn
  obtain ⟨sorted, hsorted, rfl⟩ := Option.map_eq_some_iff.mp h
  have hlists := Cells.lists_rowOrder? hsorted
  refine ⟨sorted, ⟨hlists.nodup, fun r hr => ?_⟩, Cells.moveRows_congr hcontains htop sorted,
    fun horder => ?_⟩
  · have hr := hlists.within r hr
    exact ⟨htop ▸ hr.1, Nat.le_trans hr.2 hbottom⟩
  · rw [Cells.rowOrder?, if_pos horder, Option.some.injEq] at hsorted
    rw [← hsorted, Cells.rowOrder, Cells.rowOrder, keyedRows_areaToSort]

end Sheet

end SheetScript
