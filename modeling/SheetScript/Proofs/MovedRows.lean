import Mathlib.Data.List.GetD
import Mathlib.Data.Set.Function
import Mathlib.Order.Interval.Set.Basic
import SheetScript.Proofs.SortedRows

/-!
# What moving the rows of a block makes of it

The rows that a sort lists move to the top of a block, and the place of every other row is counted out.
Whichever rows are listed, this comes to another order of all rows of the block: the cells of each row
move together, and no row is lost.

- `Grid.Block.listedFirst`, `Grid.Block.sourceRow`: all rows of a block, those that are listed first, and
  the row that ends up in a place.
- `idxOf_passed_append`, `sortedRow_eq`: the place that is counted out for a row is its place among all
  rows.
- `Cells.RowsPermuted`, `rowsPermuted_moveRows`: what is done to the cells of the block.
-/

namespace SheetScript

open Grid

/-! ## Rows of a block -/

namespace Grid.Block

variable {b : Block} {row : Nat} {sorted : List Nat}

theorem pairwise_rows (b : Block) : b.rows.Pairwise (· < ·) :=
  List.pairwise_lt_range'

theorem nodup_rows (b : Block) : b.rows.Nodup :=
  List.nodup_range'

theorem length_rows (b : Block) : b.rows.length = b.height :=
  List.length_range'

/-- A row of a block is told by its distance from the first one. -/
theorem top_add_idxOf (h : row ∈ b.rows) : b.top + b.rows.idxOf row = row := by
  have hindex := List.idxOf_lt_length_iff.mpr h
  have hget : b.rows[b.rows.idxOf row] = b.top + 1 * b.rows.idxOf row :=
    List.getElem_range' _
  rw [List.getElem_idxOf hindex] at hget
  omega

/-- All rows of a block, the listed ones first and the others behind them in their order. -/
def listedFirst (b : Block) (sorted : List Nat) : List Nat :=
  sorted ++ b.rows.filter fun row => row ∉ sorted

/-- The listed rows are the rows of the block that are on the list. -/
theorem Lists.perm_filter (h : b.Lists sorted) : sorted.Perm (b.rows.filter (· ∈ sorted)) := by
  refine (List.perm_ext_iff_of_nodup h.nodup (b.nodup_rows.filter _)).mpr fun row => ?_
  rw [List.mem_filter, decide_eq_true_iff]
  exact ⟨fun hrow => ⟨mem_rows.mpr (h.within row hrow), hrow⟩, And.right⟩

/-- All rows of the block are there, in another order. -/
theorem Lists.perm_listedFirst (h : b.Lists sorted) : (b.listedFirst sorted).Perm b.rows := by
  have hsplit := List.filter_append_perm (fun row => decide (row ∈ sorted)) b.rows
  refine (h.perm_filter.append_right _).trans (.trans (.of_eq ?_) hsplit)
  simp only [decide_not]

/-- If all rows are listed, none follows. -/
theorem listedFirst_eq_self (h : sorted.Perm b.rows) : b.listedFirst sorted = sorted := by
  rw [listedFirst, List.filter_eq_nil_iff.mpr, List.append_nil]
  intro row hrow
  simpa using h.symm.subset hrow

theorem Lists.nodup_listedFirst (h : b.Lists sorted) : (b.listedFirst sorted).Nodup :=
  h.perm_listedFirst.nodup_iff.mpr b.nodup_rows

/-- The row of a block that ends up in a place. -/
def sourceRow (b : Block) (sorted : List Nat) (row : Nat) : Nat :=
  (b.listedFirst sorted).getD (row - b.top) row

/-- What ends up in a place is the row that is listed there. -/
theorem Lists.sourceRow_eq (h : b.Lists sorted) (hrow : row ∈ b.rows) :
    ∃ hplace : row - b.top < (b.listedFirst sorted).length,
      b.sourceRow sorted row = (b.listedFirst sorted)[row - b.top] := by
  have hplace : row - b.top < (b.listedFirst sorted).length := by
    have hrows := mem_rows.mp hrow
    rw [h.perm_listedFirst.length_eq, length_rows, height]
    omega
  exact ⟨hplace, List.getD_eq_getElem _ _ hplace⟩

/-- It is a row of the block. -/
theorem Lists.sourceRow_mem (h : b.Lists sorted) (hrow : row ∈ b.rows) :
    b.sourceRow sorted row ∈ b.rows := by
  obtain ⟨hplace, hsource⟩ := h.sourceRow_eq hrow
  rw [hsource]
  exact h.perm_listedFirst.subset (List.getElem_mem hplace)

/-- What holds of two rows as they are listed holds of what ends up in two places. -/
theorem Lists.sourceRow_of_pairwise (h : b.Lists sorted) {R : Nat → Nat → Prop}
    (hlisted : (b.listedFirst sorted).Pairwise R) {row' : Nat} (hrow : row ∈ b.rows)
    (hrow' : row' ∈ b.rows) (hlt : row < row') :
    R (b.sourceRow sorted row) (b.sourceRow sorted row') := by
  obtain ⟨hplace, hsource⟩ := h.sourceRow_eq hrow
  obtain ⟨hplace', hsource'⟩ := h.sourceRow_eq hrow'
  have htop := (mem_rows.mp hrow).1
  rw [hsource, hsource']
  exact List.pairwise_iff_getElem.mp hlisted _ _ hplace hplace' (by omega)

end Grid.Block

/-! ## Places -/

/-- A row that fails a test stands among rows in ascending order, those of which that pass are moved to
the front. It moves down by those behind it that pass. -/
theorem idxOf_passed_append {rows sorted : List Nat} {passes : Nat → Bool} {row : Nat}
    (hrows : rows.Pairwise (· < ·)) (hsorted : sorted.Perm (rows.filter passes)) (hrow : row ∈ rows)
    (hfails : passes row = false) :
    (sorted ++ rows.filter fun r => !passes r).idxOf row =
      rows.idxOf row + sorted.countP (row < ·) := by
  obtain ⟨above, below, rfl⟩ := List.append_of_mem hrow
  rw [List.pairwise_append, List.pairwise_cons] at hrows
  obtain ⟨-, ⟨hbelow, -⟩, habove⟩ := hrows
  have habove : ∀ r ∈ above, r < row := fun r hr => habove r hr row List.mem_cons_self
  have hnotMem : row ∉ above := fun hmem => Nat.lt_irrefl row (habove row hmem)
  have hpassed : sorted.Perm (above.filter passes ++ below.filter passes) := by
    rwa [List.filter_append, List.filter_cons_of_neg (by simp [hfails])] at hsorted
  have hindex : (sorted ++ (above ++ row :: below).filter fun r => !passes r).idxOf row =
      sorted.length + (above.filter fun r => !passes r).length := by
    have hsorted : row ∉ sorted := fun hmem => by
      rcases List.mem_append.mp (hpassed.subset hmem) with hmem | hmem <;>
        exact absurd (List.mem_filter.mp hmem).2 (by simp [hfails])
    rw [List.idxOf_append_of_notMem hsorted, List.filter_append,
      List.idxOf_append_of_notMem fun hmem => hnotMem (List.mem_of_mem_filter hmem),
      List.filter_cons_of_pos (by simp [hfails]), List.idxOf_cons_self, Nat.add_zero]
  have hcount : sorted.countP (row < ·) = (below.filter passes).length := by
    have hzero : (above.filter passes).countP (row < ·) = 0 :=
      List.countP_eq_zero.mpr fun r hr => by
        simpa using Nat.le_of_lt (habove r (List.mem_of_mem_filter hr))
    have hall : (below.filter passes).countP (row < ·) = (below.filter passes).length :=
      List.countP_eq_length.mpr fun r hr => by simpa using hbelow r (List.mem_of_mem_filter hr)
    rw [hpassed.countP_eq, List.countP_append, hzero, hall, Nat.zero_add]
  have hlength := hpassed.length_eq
  have habove := List.length_eq_length_filter_add (l := above) passes
  rw [hindex, hcount, List.idxOf_append_of_notMem hnotMem, List.idxOf_cons_self]
  rw [List.length_append] at hlength
  omega

namespace Cells

variable {cells : Cells} {b : Block} {sorted : List Nat} {row col : Nat}

/-- The place that is counted out for a row is its place among all rows. -/
theorem sortedRow_eq (hsorted : b.Lists sorted) (hrow : row ∈ b.rows) :
    sortedRow b sorted row = b.top + (b.listedFirst sorted).idxOf row := by
  rw [sortedRow, Block.listedFirst]
  cases hindex : sorted.idxOf? row with
  | some i =>
    obtain ⟨hi, hrow, -⟩ := List.idxOf?_eq_some_iff.mp hindex
    rw [List.idxOf_append_of_mem (hrow ▸ List.getElem_mem hi), List.idxOf_eq_getD_idxOf?, hindex]
    rfl
  | none =>
    have hunlisted : decide (row ∈ sorted) = false :=
      decide_eq_false (List.idxOf?_eq_none_iff.mp hindex)
    have hplace := idxOf_passed_append b.pairwise_rows hsorted.perm_filter hrow hunlisted
    simp only [decide_not]
    show row + sorted.countP (row < ·) = _
    rw [hplace, ← Nat.add_assoc, Block.top_add_idxOf hrow]

/-- A row is moved to a place exactly if it is the row that ends up there. -/
theorem sourceRow_eq_iff (hsorted : b.Lists sorted) {row' : Nat} (hrow : row ∈ b.rows)
    (hrow' : row' ∈ b.rows) :
    b.sourceRow sorted row = row' ↔ sortedRow b sorted row' = row := by
  have hnodup := hsorted.nodup_listedFirst
  have hbounds := Block.mem_rows.mp hrow
  obtain ⟨hplace, hsource⟩ := hsorted.sourceRow_eq hrow
  rw [sortedRow_eq hsorted hrow', hsource]
  constructor
  · rintro rfl
    rw [hnodup.idxOf_getElem]
    omega
  · intro hindex
    have hmem : row' ∈ b.listedFirst sorted := hsorted.perm_listedFirst.mem_iff.mpr hrow'
    have hplace' : row - b.top = (b.listedFirst sorted).idxOf row' := by omega
    simp only [hplace', List.getElem_idxOf]

/-! ## Cells -/

/-- The rows that end up in the places of a block are its rows. -/
theorem bijOn_sourceRow (hsorted : b.Lists sorted) :
    Set.BijOn (b.sourceRow sorted) (Set.Icc b.top b.bottom) (Set.Icc b.top b.bottom) := by
  have hrows : ∀ {row}, row ∈ Set.Icc b.top b.bottom ↔ row ∈ b.rows := Block.mem_rows.symm
  refine ⟨fun row hrow => ?_, fun row hrow row' hrow' heq => ?_, fun row hrow => ?_⟩
  · exact hrows.mpr (hsorted.sourceRow_mem (hrows.mp hrow))
  · -- both are the place of the same row
    have hsource := hsorted.sourceRow_mem (hrows.mp hrow)
    exact ((sourceRow_eq_iff hsorted (hrows.mp hrow) hsource).mp rfl).symm.trans
      ((sourceRow_eq_iff hsorted (hrows.mp hrow') hsource).mp heq.symm)
  · have hplace := sortedRow_within hsorted hrow
    exact ⟨_, hplace, (sourceRow_eq_iff hsorted (hrows.mp hplace) (hrows.mp hrow)).mpr rfl⟩

/-- The cells of a row move together. -/
theorem getAt_moveRows (cells : Cells) (hsorted : b.Lists sorted) (hrow : row ∈ b.rows)
    (hcol : b.left ≤ col ∧ col ≤ b.right) :
    (cells.moveRows b sorted).getAt row col = cells.getAt (b.sourceRow sorted row) col := by
  have hsource := hsorted.sourceRow_mem hrow
  obtain ⟨q, hq, -⟩ := Block.exists_at? (Block.mem_rows.mp hrow) hcol
  obtain ⟨p, hp, hin⟩ := Block.exists_at? (Block.mem_rows.mp hsource) hcol
  rw [getAt, getAt, hq, hp]
  obtain ⟨hqrow, rfl⟩ := Position.at?_eq_some_iff.mp hq
  obtain ⟨hprow, hpcol⟩ := Position.at?_eq_some_iff.mp hp
  -- the cell at `p` goes to `q`, and no other cell does
  refine get_relocate_eq (c := cells.get p) (fun p' hused hmove => ?_) fun habsent => ?_
  · by_cases hin' : b.contains p' = true
    · rw [if_pos hin', Position.at?_eq_some_iff] at hmove
      have hrow' := Block.mem_rows.mpr (Block.contains_iff.mp hin').1
      have hplace := (sourceRow_eq_iff hsorted hrow hrow').mpr (hmove.1.symm.trans hqrow)
      rw [Position.ext (hplace.symm.trans hprow.symm) (hmove.2.symm.trans hpcol.symm)]
    · rw [if_neg hin', Option.some.injEq] at hmove
      rw [hmove, Block.contains_iff] at hin'
      exact absurd ⟨hqrow ▸ Block.mem_rows.mp hrow, hcol⟩ hin'
  · by_contra hne
    refine habsent p (Ne.symm hne) ?_
    rw [if_pos hin, hprow, (sourceRow_eq_iff hsorted hrow hsource).mp rfl, hpcol, ← hqrow]
    exact Position.at?_row_col q

/-- Whether the rows of `after` in a block are those of `before` in another order: row `r` is what row
`source r` was. -/
structure RowsPermuted (before after : Cells) (b : Block) (source : Nat → Nat) : Prop where
  bijOn : Set.BijOn source (Set.Icc b.top b.bottom) (Set.Icc b.top b.bottom)
  inside : ∀ row col, (b.top ≤ row ∧ row ≤ b.bottom) → (b.left ≤ col ∧ col ≤ b.right) →
    after.getAt row col = before.getAt (source row) col
  outside : ∀ p, b.contains p = false → after.get p = before.get p

/-- Moving the rows of a block puts them into another order. -/
theorem rowsPermuted_moveRows (cells : Cells) (hsorted : b.Lists sorted) :
    cells.RowsPermuted (cells.moveRows b sorted) b (b.sourceRow sorted) where
  bijOn := bijOn_sourceRow hsorted
  inside _ _ hrow hcol := getAt_moveRows cells hsorted (Block.mem_rows.mpr hrow) hcol
  outside _ hp := get_moveRows_of_not_contains hsorted hp

end Cells

end SheetScript
