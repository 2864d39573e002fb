import SheetScript.Proofs.Changes
import SheetScript.Proofs.KeyOrder
import SheetScript.Proofs.MovedRows
import SheetScript.Proofs.RowMacros
import SheetScript.Proofs.SortedRuns

/-!
# What a sort makes of a block

The rows of a block with a key are sorted, and the others are moved below them. Unless a key reads as
not-a-number this comes to a stable sort of all rows of the block, the ones without a key included. Else
the rows end up in some order, or the sort finds their keys to be in no order and stops everything.

- `Cells.compareRows`, `Cells.sortedRows`: the order that the texts of two rows give, and all rows of a
  block in that order.
- `rowOrder_eq`, `listedFirst_rowOrder`: the rows with a key are sorted and the others follow.
- `listedFirst_rowOrder?`: nothing is lost by that, since a sort of all rows comes to the same.
- `Cells.RowsInOrder`, `rowsInOrder_rowOrder`: what a stable sort is for.
- `Workbook.sort_resolved`: a sort of the block that an address names.
-/

namespace SheetScript

open Grid

/-- Of two positions in a column the upper one comes first. -/
theorem Grid.Position.row_lt_of_compare {p q : Position} (h : compare p q = .lt)
    (hcol : p.col = q.col) : p.row < q.row := by
  have hlex : (compare p.row q.row).then (compare p.col q.col) = .lt := h
  rw [hcol, Std.compare_self, Ordering.then_eq] at hlex
  exact Nat.compare_eq_lt.mp hlex

/-- Only the empty text has no key. -/
theorem SortKey.ofText_eq_blank_iff {s : String} : SortKey.ofText s = .blank ↔ s = "" := by
  rw [SortKey.ofText]
  by_cases hs : s = ""
  · rw [if_pos hs]
    exact ⟨fun _ => hs, fun _ => rfl⟩
  · rw [if_neg hs]
    refine ⟨fun h => ?_, fun h => absurd h hs⟩
    cases hnumber : Number.Binary64.parse? (Text.trimChars s.toList) <;> rw [hnumber] at h <;> cases h

namespace Cells

variable {cells : Cells} {b : Block} {keyColumn : Nat} {ascending : Bool} {row col : Nat}

/-! ## Keys -/

theorem keyText_row_col (cells : Cells) (p : Position) :
    cells.keyText p.col p.row = (cells.get p).sortText := by
  rw [keyText, getAt_row_col]

/-- Whether a row has a text to be sorted by. -/
def hasKey (cells : Cells) (keyColumn row : Nat) : Bool :=
  cells.keyText keyColumn row != ""

/-- Two rows compared by their texts. -/
def compareRows (cells : Cells) (keyColumn : Nat) (ascending : Bool) (row row' : Nat) : Ordering :=
  compareKeys ascending (cells.keyText keyColumn row) (cells.keyText keyColumn row')

/-- Two rows compare the other way round from the other side. -/
theorem compareRows_swap (cells : Cells) (keyColumn : Nat) (ascending : Bool) (row row' : Nat) :
    cells.compareRows keyColumn ascending row row' =
      (cells.compareRows keyColumn ascending row' row).swap :=
  SortKey.order_swap _ _ _

/-- Rows are in a chain unless the key of the one in the middle reads as not-a-number. -/
theorem compareRows_trans {row' row'' : Nat}
    (hnan : Number.Binary64.ofText? (cells.keyText keyColumn row') ≠ some .nan)
    (h : cells.compareRows keyColumn ascending row row' ≠ .gt)
    (h' : cells.compareRows keyColumn ascending row' row'' ≠ .gt) :
    cells.compareRows keyColumn ascending row row'' ≠ .gt :=
  SortKey.order_trans (fun heq => hnan (SortKey.ofText_eq_number_iff.mp heq)) h h'

/-- Whether a row has to come before another one. -/
def rowPrecedes (cells : Cells) (keyColumn : Nat) (ascending : Bool) (row row' : Nat) : Bool :=
  cells.compareRows keyColumn ascending row row' == .lt

/-- A row with a key comes before one without, whichever way the others are sorted. -/
theorem rowPrecedes_of_hasKey {row' : Nat} (h : cells.hasKey keyColumn row = true)
    (h' : cells.hasKey keyColumn row' = false) :
    cells.rowPrecedes keyColumn ascending row row' = true := by
  have hrow : SortKey.ofText (cells.keyText keyColumn row) ≠ .blank := fun hblank =>
    bne_iff_ne.mp h (SortKey.ofText_eq_blank_iff.mp hblank)
  have hrow' : SortKey.ofText (cells.keyText keyColumn row') = .blank :=
    SortKey.ofText_eq_blank_iff.mpr (by simpa [hasKey] using h')
  rw [rowPrecedes, compareRows, compareKeys, hrow', SortKey.order_blank_right hrow]
  rfl

/-- A row without a key has to come before none. -/
theorem rowPrecedes_of_not_hasKey (h : cells.hasKey keyColumn row = false) (row' : Nat) :
    cells.rowPrecedes keyColumn ascending row row' = false := by
  have hrow : SortKey.ofText (cells.keyText keyColumn row) = .blank :=
    SortKey.ofText_eq_blank_iff.mpr (by simpa [hasKey] using h)
  rw [rowPrecedes, compareRows, compareKeys, hrow]
  cases SortKey.ofText (cells.keyText keyColumn row') <;> rfl

/-! ## All rows, sorted -/

/-- All rows of a block in sorted order. -/
def sortedRows (cells : Cells) (b : Block) (keyColumn : Nat) (ascending : Bool) : List Nat :=
  stableSort (cells.rowPrecedes keyColumn ascending) b.rows

/-- Rows with keys are listed top to bottom. -/
theorem pairwise_keyedRows (cells : Cells) (b : Block) (keyColumn : Nat) :
    (cells.keyedRows b keyColumn).Pairwise fun x y => x.1 < y.1 := by
  refine List.Pairwise.filterMap _ ?_ (Std.ExtTreeMap.ordered_keys_toList (t := cells.used))
  rintro ⟨p, c⟩ ⟨q, d⟩ hpq x hx y hy
  rw [Option.ite_none_right_eq_some, Option.some.injEq] at hx hy
  obtain ⟨⟨-, hp, -⟩, rfl⟩ := hx
  obtain ⟨⟨-, hq, -⟩, rfl⟩ := hy
  exact Position.row_lt_of_compare hpq (hp.trans hq.symm)

/-- The rows with a key are the rows of the block with a text in the key column. -/
theorem mem_keyedRows (hkey : b.left ≤ keyColumn ∧ keyColumn ≤ b.right) {x : Nat × SortKey} :
    x ∈ cells.keyedRows b keyColumn ↔
      ∃ row, (row ∈ b.rows ∧ cells.hasKey keyColumn row = true) ∧
        (row, .ofText (cells.keyText keyColumn row)) = x := by
  rw [keyedRows, List.mem_filterMap]
  constructor
  · rintro ⟨⟨p, c⟩, he, hx⟩
    rw [Option.ite_none_right_eq_some, Option.some.injEq] at hx
    obtain ⟨⟨hin, rfl, htext⟩, rfl⟩ := hx
    obtain ⟨rfl, -⟩ := mem_toList.mp he
    rw [← keyText_row_col] at htext ⊢
    exact ⟨p.row, ⟨Block.mem_rows.mpr (Block.contains_iff.mp hin).1, bne_iff_ne.mpr htext⟩, rfl⟩
  · rintro ⟨row, ⟨hrow, htext⟩, rfl⟩
    obtain ⟨p, hp, hin⟩ := Block.exists_at? (Block.mem_rows.mp hrow) hkey
    obtain ⟨rfl, rfl⟩ := Position.at?_eq_some_iff.mp hp
    have htext : (cells.get p).sortText ≠ "" := by
      rw [← keyText_row_col]
      exact bne_iff_ne.mp htext
    -- a cell with a text is in use
    have hused : (cells.get p).isBlank = false := by
      rw [Cell.isBlank_eq_false_iff]
      intro hblank
      rw [hblank] at htext
      exact htext rfl
    refine ⟨(p, cells.get p), mem_toList.mpr ⟨rfl, hused⟩, ?_⟩
    rw [keyText_row_col]
    exact if_pos ⟨hin, rfl, htext⟩

/-- The rows with keys are those with a text in the key column. -/
theorem keyedRows_eq (hkey : b.left ≤ keyColumn ∧ keyColumn ≤ b.right) :
    cells.keyedRows b keyColumn =
      (b.rows.filter (cells.hasKey keyColumn)).map fun row =>
        (row, .ofText (cells.keyText keyColumn row)) := by
  have hkeyed := cells.pairwise_keyedRows b keyColumn
  have hrows : ((b.rows.filter (cells.hasKey keyColumn)).map fun row =>
      (row, SortKey.ofText (cells.keyText keyColumn row))).Pairwise fun x y => x.1 < y.1 := by
    rw [List.pairwise_map]
    exact b.pairwise_rows.filter _
  have hnodup : ∀ {l : List (Nat × SortKey)}, l.Pairwise (fun x y => x.1 < y.1) → l.Nodup := fun h =>
    h.imp fun hlt heq => Nat.ne_of_lt hlt (congrArg Prod.fst heq)
  -- two lists with the same members in strictly ascending order
  refine List.Perm.eq_of_pairwise (fun x y _ _ hxy hyx => absurd hyx (Nat.lt_asymm hxy)) hkeyed hrows
    ((List.perm_ext_iff_of_nodup (hnodup hkeyed) (hnodup hrows)).mpr fun x => ?_)
  rw [mem_keyedRows hkey, List.mem_map]
  simp only [List.mem_filter]

/-- The rows with keys are sorted among themselves. -/
theorem rowOrder_eq (hkey : b.left ≤ keyColumn ∧ keyColumn ≤ b.right) :
    cells.rowOrder b keyColumn ascending =
      stableSort (cells.rowPrecedes keyColumn ascending) (b.rows.filter (cells.hasKey keyColumn)) := by
  set keyed : Nat → Nat × SortKey := fun row => (row, .ofText (cells.keyText keyColumn row))
  rw [rowOrder, keyedRows_eq hkey, ← map_stableSort keyed (keyPrecedes ascending), List.map_map]
  exact List.map_id _

/-- The other rows stay behind them in their order. -/
theorem listedFirst_rowOrder (hkey : b.left ≤ keyColumn ∧ keyColumn ≤ b.right) :
    b.listedFirst (cells.rowOrder b keyColumn ascending) = cells.sortedRows b keyColumn ascending := by
  have hmem : ∀ row ∈ b.rows, row ∈ cells.rowOrder b keyColumn ascending ↔
      cells.hasKey keyColumn row = true := fun row hrow => by
    rw [rowOrder_eq hkey, (perm_stableSort _ _).mem_iff, List.mem_filter, and_iff_right hrow]
  have hrest : (b.rows.filter fun row => row ∉ cells.rowOrder b keyColumn ascending) =
      b.rows.filter fun row => !cells.hasKey keyColumn row :=
    List.filter_congr fun row hrow => by simp [hmem row hrow]
  rw [Block.listedFirst, hrest, rowOrder_eq hkey, sortedRows]
  exact (stableSort_eq_append (fun _ _ => rowPrecedes_of_hasKey)
    (fun _ row' h => rowPrecedes_of_not_hasKey h row') b.rows).symm

/-- Keys other than not-a-number are in order. -/
theorem orders_keyPrecedes (ascending : Bool) :
    Orders (keyPrecedes ascending) fun x => x.2 ≠ .number .nan where
  asymm {x y} _ _ h := by
    rw [keyPrecedes, SortKey.order_swap, beq_iff_eq.mp h]
    rfl
  trans {x y z} _ hy _ hxy hyz := by
    have hle : ∀ {x y : Nat × SortKey}, keyPrecedes ascending y x = false ↔
        SortKey.order ascending x.2 y.2 ≠ .gt := fun {x y} => by
      rw [keyPrecedes, SortKey.order_swap, Ne, ← Ordering.swap_eq_lt]
      simp
    exact hle.mpr (SortKey.order_trans hy (hle.mp hxy) (hle.mp hyz))

/-- All rows of a block in sorted order, those without a key sorted among the others: by insertion if there
are few rows, and else by runs. -/
def sortedRows? (cells : Cells) (b : Block) (keyColumn : Nat) (ascending : Bool) : Option (List Nat) :=
  let rows := cells.allKeys b keyColumn
  if rows.length ≤ maxInsertion then
    some ((stableSort (keyPrecedes ascending) rows).map (·.1))
  else (driftSort (keyPrecedes ascending) rows).map fun rows => rows.map (·.1)

/-- Rows can be sorted with their keys. -/
theorem map_fst_stableSort_allKeys (cells : Cells) (b : Block) (keyColumn : Nat) (ascending : Bool) :
    (stableSort (keyPrecedes ascending) (cells.allKeys b keyColumn)).map (·.1) =
      cells.sortedRows b keyColumn ascending := by
  set keyed : Nat → Nat × SortKey := fun row => (row, .ofText (cells.keyText keyColumn row))
  have hrows := map_stableSort keyed (keyPrecedes ascending) b.rows
  rw [allKeys, ← hrows, List.map_map]
  exact List.map_id _

/-- Rows that are too many to be sorted by insertion all have keys in order, where they are sorted as if by
insertion. -/
theorem key_ne_nan_of_isOrderly (hkey : b.left ≤ keyColumn ∧ keyColumn ≤ b.right)
    (horderly : cells.isOrderly b keyColumn = true) (hmany : ¬b.height ≤ maxInsertion)
    (hrow : row ∈ b.rows) : SortKey.ofText (cells.keyText keyColumn row) ≠ .number .nan := by
  intro hnan
  have htext : cells.hasKey keyColumn row = true := by
    refine bne_iff_ne.mpr fun hempty => ?_
    rw [SortKey.ofText_eq_blank_iff.mpr hempty] at hnan
    cases hnan
  rw [isOrderly, decide_eq_false hmany, Bool.false_or, List.all_eq_true] at horderly
  exact bne_iff_ne.mp (horderly _ ((mem_keyedRows hkey).mpr ⟨row, ⟨hrow, htext⟩, rfl⟩)) hnan

/-- The rows are moved as by a sort of all of them, and are found to be in no order in the same cases. -/
theorem listedFirst_rowOrder? (hkey : b.left ≤ keyColumn ∧ keyColumn ≤ b.right) :
    (cells.rowOrder? b keyColumn ascending).map b.listedFirst =
      cells.sortedRows? b keyColumn ascending := by
  have hlength : (cells.allKeys b keyColumn).length = b.height := by
    rw [allKeys, List.length_map, Block.length_rows]
  rw [rowOrder?, sortedRows?, hlength]
  by_cases horderly : cells.isOrderly b keyColumn = true
  · rw [if_pos horderly, Option.map_some, listedFirst_rowOrder hkey]
    by_cases hfew : b.height ≤ maxInsertion
    · rw [if_pos hfew, map_fst_stableSort_allKeys]
    · have hstood : (cells.allKeys b keyColumn).Pairwise (Stood (fun x => x.2 ≠ .number .nan) (·.1)) :=
        List.pairwise_map.mpr (b.pairwise_rows.imp_of_mem fun hrow hrow' hlt =>
          ⟨⟨key_ne_nan_of_isOrderly hkey horderly hfew hrow,
            key_ne_nan_of_isOrderly hkey horderly hfew hrow'⟩, hlt⟩)
      rw [if_neg hfew, driftSort_eq_stableSort (orders_keyPrecedes ascending) _ hstood,
        Option.map_some, map_fst_stableSort_allKeys]
  · have hmany : ¬b.height ≤ maxInsertion := fun hfew =>
      horderly (Bool.or_eq_true_iff.mpr (Or.inl (decide_eq_true hfew)))
    rw [if_neg horderly, if_neg hmany, Option.map_map]
    refine Option.map_congr fun rows hrows => ?_
    have hperm := (perm_driftSort hrows).map Prod.fst
    rw [map_fst_allKeys] at hperm
    exact Block.listedFirst_eq_self hperm

/-! ## The order of the rows -/

/-- Whether the rows of a block are in order by their keys, and rows with equal keys in the order in which
they were before. -/
structure RowsInOrder (cells : Cells) (b : Block) (keyColumn : Nat) (ascending : Bool)
    (source : Nat → Nat) : Prop where
  ordered : ∀ row row', b.top ≤ row → row < row' → row' ≤ b.bottom →
    cells.compareRows keyColumn ascending row' row ≠ .lt
  stable : ∀ row row', b.top ≤ row → row < row' → row' ≤ b.bottom →
    cells.compareRows keyColumn ascending row row' = .eq → source row < source row'

/-- A key moves with its row. -/
theorem keyText_moveRows (cells : Cells) {sorted : List Nat} (hsorted : b.Lists sorted)
    (hkey : b.left ≤ keyColumn ∧ keyColumn ≤ b.right) (hrow : row ∈ b.rows) :
    (cells.moveRows b sorted).keyText keyColumn row =
      cells.keyText keyColumn (b.sourceRow sorted row) := by
  rw [keyText, getAt_moveRows cells hsorted hrow hkey, keyText]

/-- So rows compare as they did where they came from. -/
theorem compareRows_moveRows (cells : Cells) {sorted : List Nat} (hsorted : b.Lists sorted)
    (hkey : b.left ≤ keyColumn ∧ keyColumn ≤ b.right) {row' : Nat} (hrow : row ∈ b.rows)
    (hrow' : row' ∈ b.rows) :
    (cells.moveRows b sorted).compareRows keyColumn ascending row row' =
      cells.compareRows keyColumn ascending (b.sourceRow sorted row) (b.sourceRow sorted row') := by
  rw [compareRows, keyText_moveRows cells hsorted hkey hrow, keyText_moveRows cells hsorted hkey hrow',
    compareRows]

/-- In sorted order, rows without a key are behind the others, in both directions. -/
theorem pairwise_hasKey_sortedRows (cells : Cells) (b : Block) (keyColumn : Nat) (ascending : Bool) :
    (cells.sortedRows b keyColumn ascending).Pairwise fun r r' =>
      cells.hasKey keyColumn r = false → cells.hasKey keyColumn r' = false := by
  refine pairwise_stableSort (fun _ _ _ _ _ _ hxy hyz hx => hyz (hxy hx))
    (b.pairwise_rows.imp fun {r r'} _ => ⟨fun hpre hr' => ?_, fun hpre hr => ?_⟩)
  · rw [rowPrecedes_of_not_hasKey hr'] at hpre
    cases hpre
  · by_contra hr'
    rw [Bool.not_eq_false] at hr'
    rw [rowPrecedes_of_hasKey hr' hr] at hpre
    cases hpre

/-- Unless a key reads as not-a-number, no two rows are sorted the wrong way round, and rows with equal
keys are left as they stood. -/
theorem pairwise_sortedRows (ascending : Bool)
    (hnan : ∀ row, b.top ≤ row → row ≤ b.bottom →
      Number.Binary64.ofText? (cells.keyText keyColumn row) ≠ some .nan) :
    (cells.sortedRows b keyColumn ascending).Pairwise fun r r' =>
      cells.compareRows keyColumn ascending r r' ≠ .gt ∧
        (cells.compareRows keyColumn ascending r' r ≠ .gt → r < r') := by
  have htrans : ∀ {r r' r''}, r' ∈ b.rows → cells.compareRows keyColumn ascending r r' ≠ .gt →
      cells.compareRows keyColumn ascending r' r'' ≠ .gt →
      cells.compareRows keyColumn ascending r r'' ≠ .gt := fun {_ r' _} hmem =>
    compareRows_trans (hnan r' (Block.mem_rows.mp hmem).1 (Block.mem_rows.mp hmem).2)
  refine pairwise_stableSort ?_
    (b.pairwise_rows.imp fun {r r'} hlt => ⟨fun hpre => ?_, fun hpre => ⟨?_, fun _ => hlt⟩⟩)
  · rintro r hr r' hr' r'' hr'' ⟨hle, hlt⟩ ⟨hle', hlt'⟩
    refine ⟨htrans hr' hle hle', fun hback => ?_⟩
    exact Nat.lt_trans (hlt (htrans hr'' hle' hback)) (hlt' (htrans hr hback hle))
  · have hlt : cells.compareRows keyColumn ascending r' r = .lt := beq_iff_eq.mp hpre
    refine ⟨by rw [hlt]; exact nofun, fun hback => ?_⟩
    rw [compareRows_swap, hlt] at hback
    exact absurd rfl hback
  · intro hgt
    rw [rowPrecedes, compareRows_swap, hgt] at hpre
    cases hpre

section

variable (hkey : b.left ≤ keyColumn ∧ keyColumn ≤ b.right)
include hkey

/-- Where the rows with a key are sorted as if by insertion, the others end up behind them. -/
theorem keyText_eq_empty_of_lt {row' : Nat} (hrow : b.top ≤ row) (hlt : row < row')
    (hrow' : row' ≤ b.bottom)
    (hempty : (cells.moveRows b (cells.rowOrder b keyColumn ascending)).keyText keyColumn row = "") :
    (cells.moveRows b (cells.rowOrder b keyColumn ascending)).keyText keyColumn row' = "" := by
  have hlists := cells.lists_rowOrder b keyColumn ascending
  have hmem : row ∈ b.rows := Block.mem_rows.mpr ⟨hrow, Nat.le_trans hlt.le hrow'⟩
  have hmem' : row' ∈ b.rows := Block.mem_rows.mpr ⟨Nat.le_trans hrow hlt.le, hrow'⟩
  have hbehind := cells.pairwise_hasKey_sortedRows b keyColumn ascending
  rw [← listedFirst_rowOrder hkey] at hbehind
  have hplaced := hlists.sourceRow_of_pairwise hbehind hmem hmem' hlt
  rw [keyText_moveRows cells hlists hkey hmem] at hempty
  rw [keyText_moveRows cells hlists hkey hmem']
  simpa [hasKey] using hplaced (by simpa [hasKey] using hempty)

/-- Unless a key reads as not-a-number, the rows are in order. -/
theorem rowsInOrder_rowOrder
    (hnan : ∀ row, b.top ≤ row → row ≤ b.bottom →
      Number.Binary64.ofText? (cells.keyText keyColumn row) ≠ some .nan) :
    (cells.moveRows b (cells.rowOrder b keyColumn ascending)).RowsInOrder b keyColumn ascending
      (b.sourceRow (cells.rowOrder b keyColumn ascending)) := by
  have hlists := cells.lists_rowOrder b keyColumn ascending
  have hsorted := pairwise_sortedRows ascending hnan
  rw [← listedFirst_rowOrder hkey] at hsorted
  have hmem : ∀ {row row'}, b.top ≤ row → row < row' → row' ≤ b.bottom →
      row ∈ b.rows ∧ row' ∈ b.rows := fun hrow hlt hrow' =>
    ⟨Block.mem_rows.mpr ⟨hrow, Nat.le_trans hlt.le hrow'⟩,
      Block.mem_rows.mpr ⟨Nat.le_trans hrow hlt.le, hrow'⟩⟩
  constructor
  · intro row row' hrow hlt hrow' hback
    obtain ⟨hmem, hmem'⟩ := hmem hrow hlt hrow'
    have hplaced := hlists.sourceRow_of_pairwise hsorted hmem hmem' hlt
    rw [compareRows_moveRows cells hlists hkey hmem' hmem, compareRows_swap,
      Ordering.swap_eq_lt] at hback
    exact hplaced.1 hback
  · intro row row' hrow hlt hrow' hlevel
    obtain ⟨hmem, hmem'⟩ := hmem hrow hlt hrow'
    have hplaced := hlists.sourceRow_of_pairwise hsorted hmem hmem' hlt
    rw [compareRows_moveRows cells hlists hkey hmem hmem', compareRows_swap,
      Ordering.swap_eq_eq] at hlevel
    refine hplaced.2 ?_
    rw [hlevel]
    exact nofun

/-- Unless a key reads as not-a-number, rows are sorted as if by insertion. -/
theorem isOrderly_of_forall {b' : Block}
    (hsame : cells.keyedRows b' keyColumn = cells.keyedRows b keyColumn)
    (hnan : ∀ row, b.top ≤ row → row ≤ b.bottom →
      Number.Binary64.ofText? (cells.keyText keyColumn row) ≠ some .nan) :
    cells.isOrderly b' keyColumn = true := by
  refine Bool.or_eq_true_iff.mpr (Or.inr (List.all_eq_true.mpr fun x hx => ?_))
  rw [hsame, mem_keyedRows hkey] at hx
  obtain ⟨row, ⟨hrow, -⟩, rfl⟩ := hx
  have hrow := Block.mem_rows.mp hrow
  exact bne_iff_ne.mpr fun heq => hnan row hrow.1 hrow.2 (SortKey.ofText_eq_number_iff.mp heq)

/-- A key that is not-a-number is the key of a row. -/
theorem exists_nan_of_keyedRows {b' : Block} (h : ∃ x ∈ cells.keyedRows b' keyColumn, x.2 = .number .nan)
    (hsame : cells.keyedRows b' keyColumn = cells.keyedRows b keyColumn) :
    ∃ row, (b.top ≤ row ∧ row ≤ b.bottom) ∧
      Number.Binary64.ofText? (cells.keyText keyColumn row) = some .nan := by
  obtain ⟨x, hx, hnan⟩ := h
  rw [hsame, mem_keyedRows hkey] at hx
  obtain ⟨row, ⟨hrow, -⟩, rfl⟩ := hx
  exact ⟨row, Block.mem_rows.mp hrow, SortKey.ofText_eq_number_iff.mp hnan⟩

end

end Cells

/-! ## The sort of a workbook -/

namespace Workbook

variable {w : Workbook} {a : Address} {i key : Nat} {s : Sheet} {b : Block}

/-- A sort by a column of its block moves rows or finds no order. -/
theorem Names.sort (h : w.Names a i s b) (hkey : key < b.width) (ascending : Bool) :
    w.sort a key ascending =
      match s.cells.sortRows? (s.areaToSort a.reference b (b.left + key)) (b.left + key) ascending with
      | some cells => .ok (w.withSheet i { s with cells })
      | none => .error (.stop .disorder) := by
  rw [Workbook.sort, h.changeAt, if_pos hkey]
  dsimp only
  cases s.cells.sortRows? (s.areaToSort a.reference b (b.left + key)) (b.left + key) ascending <;> rfl

/-- A sort by a column outside its block is refused. -/
theorem Names.sort_of_le (h : w.Names a i s b) (hkey : b.width ≤ key) (ascending : Bool) :
    w.sort a key ascending = .error (.error (.keyOutside key a.reference)) := by
  rw [Workbook.sort, h.changeAt, if_neg (Nat.not_lt_of_le hkey)]
  rfl

/-- A sort that comes to nothing leaves the workbook as it was. -/
theorem run_sort_of_error {ascending : Bool} {e : Failure} (h : w.sort a key ascending = .error e) :
    (host.sort a key ascending).run w = (.error e, w) := by
  have hrun := run_act (·.sort a key ascending) w
  rw [h] at hrun
  exact hrun

/-- A sort of a block that an address names, be it a rectangle or whole lines, by one of its columns puts
all rows of the block into another order and changes nothing else. Unless a key reads as not-a-number the
rows are in order, those without a key behind the others, and those with equal keys stay as they stood. A
sort by a column outside the block is refused and changes nothing. There has to be a sheet for an address
without a sheet name; and where more than `maxInsertion` rows are sorted and a key reads as not-a-number,
the keys can be found to be in no order, which stops everything. -/
theorem sort_resolved (hsheet : w.sheets ≠ [] ∨ a.sheet ≠ none) (hresolve : w.resolve a = .ok (i, b))
    (key : Nat) (ascending : Bool) :
    ∃ s, w.sheets[i]? = some s ∧
      (key < b.width →
        (∃ cells source,
          (host.sort a key ascending).run w = (.ok (), w.withSheet i { s with cells }) ∧
          s.cells.RowsPermuted cells b source ∧
          ((∀ row, b.top ≤ row → row ≤ b.bottom →
              Number.Binary64.ofText? (s.cells.keyText (b.left + key) row) ≠ some .nan) →
            cells.RowsInOrder b (b.left + key) ascending source ∧
              ∀ row row', b.top ≤ row → row < row' → row' ≤ b.bottom →
                cells.keyText (b.left + key) row = "" → cells.keyText (b.left + key) row' = "")) ∨
        ((host.sort a key ascending).run w = (.error (.stop .disorder), w) ∧
          maxInsertion < (s.areaToSort a.reference b (b.left + key)).height ∧
          ∃ row, (b.top ≤ row ∧ row ≤ b.bottom) ∧
            Number.Binary64.ofText? (s.cells.keyText (b.left + key) row) = some .nan)) ∧
      (b.width ≤ key →
        (host.sort a key ascending).run w = (.error (.error (.keyOutside key a.reference)), w)) := by
  obtain ⟨s, h⟩ := exists_names_of_resolve hsheet hresolve
  refine ⟨s, h.sheet_eq, fun hlt => ?_, fun hle => run_sort_of_error (h.sort_of_le hle ascending)⟩
  have hcolumn : b.left ≤ b.left + key ∧ b.left + key ≤ b.right := by
    have := b.columns_ordered
    rw [Block.width] at hlt
    omega
  have hsame := s.keyedRows_areaToSort a.reference b (b.left + key)
  have hw := h.sort hlt ascending
  cases hsort : s.cells.sortRows? (s.areaToSort a.reference b (b.left + key)) (b.left + key)
      ascending with
  | none =>
    rw [hsort] at hw
    obtain ⟨hmany, hnan⟩ := Cells.exists_nan_of_rowOrder? (Option.map_eq_none_iff.mp hsort)
    exact Or.inr ⟨run_sort_of_error hw, hmany, Cells.exists_nan_of_keyedRows hcolumn hnan hsame⟩
  | some cells =>
    have hrun := run_act (·.sort a key ascending) w
    rw [hw, hsort] at hrun
    obtain ⟨sorted, hlists, rfl, horderly⟩ := Sheet.sortRows?_eq_some hsort
    refine Or.inl ⟨_, _, hrun, Cells.rowsPermuted_moveRows s.cells hlists, fun hnan => ?_⟩
    obtain rfl := horderly (Cells.isOrderly_of_forall hcolumn hsame hnan)
    exact ⟨Cells.rowsInOrder_rowOrder hcolumn hnan, fun _ _ => Cells.keyText_eq_empty_of_lt hcolumn⟩

end Workbook

/-- A sheet with two texts, two numbers and a gap in its first column. -/
def Sheet.mixedColumn : Sheet :=
  .ofColumn ["pear", "10", "", "Apple", "9"]

/-- The first three columns as a whole. -/
def Grid.Block.columnsAToC : Block :=
  .ofSpan ⟨.columns, 1, 3, by decide, by decide⟩

namespace Workbook

/-- A workbook with that sheet alone. -/
def mixedColumn : Workbook where
  sheets := [Sheet.mixedColumn]

theorem names_mixedColumn : mixedColumn.Names ⟨none, "A:C"⟩ 0 Sheet.mixedColumn .columnsAToC where
  indexOf?_eq := rfl
  sheet_eq := rfl
  parse?_eq := rfl

/-- No key of that sheet reads as not-a-number. -/
theorem keyText_mixedColumn {row : Nat} (hrow : 1 ≤ row) (hrow' : row ≤ maxRows) :
    Number.Binary64.ofText? (Sheet.mixedColumn.cells.keyText 1 row) ≠ some .nan := by
  have hnumbers : Sheet.mixedColumn.cells.All fun c =>
      Number.Binary64.ofText? c.sortText ≠ some .nan :=
    (Cells.all_iff (by decide)).mpr (by decide +kernel)
  have hcell := Cells.keyText_row_col Sheet.mixedColumn.cells ⟨row, 1, ⟨hrow, hrow'⟩, by decide⟩
  exact hcell ▸ hnumbers _

/-- A sort of whole columns by one with a gap in it, from the largest key down, and a sort by a column
that is not one of them. -/
theorem sort_resolved_mixedColumn :
    mixedColumn.sheets ≠ [] ∧ mixedColumn.resolve ⟨none, "A:C"⟩ = .ok (0, .columnsAToC) ∧
    ∃ cells source,
      (host.sort ⟨none, "A:C"⟩ 0 false).run mixedColumn =
        (.ok (), mixedColumn.withSheet 0 { Sheet.mixedColumn with cells }) ∧
      Sheet.mixedColumn.cells.RowsPermuted cells .columnsAToC source ∧
      cells.RowsInOrder .columnsAToC 1 false source ∧
      (host.sort ⟨none, "A:C"⟩ 3 false).run mixedColumn =
        (.error (.error (.keyOutside 3 "A:C")), mixedColumn) := by
  have hne : mixedColumn.sheets ≠ [] := by decide
  have hresolve := names_mixedColumn.resolve_eq
  have hnan : ∀ row, 1 ≤ row → row ≤ maxRows →
      Number.Binary64.ofText? (Sheet.mixedColumn.cells.keyText 1 row) ≠ some .nan :=
    fun _ => keyText_mixedColumn
  obtain ⟨s, hs, hsorted, -⟩ := sort_resolved (Or.inl hne) hresolve 0 false
  obtain ⟨_, hs', -, hrefused⟩ := sort_resolved (Or.inl hne) hresolve 3 false
  obtain rfl : Sheet.mixedColumn = s := Option.some.inj hs
  rcases hsorted (by decide) with ⟨cells, source, hrun, hpermuted, horder⟩ | ⟨-, -, row, hrow, hkey⟩
  · exact ⟨hne, hresolve, cells, source, hrun, hpermuted, (horder hnan).1, hrefused (by decide)⟩
  · exact absurd hkey (hnan row hrow.1 hrow.2)

end Workbook

/-- A sheet with the numbers from twenty down in its first column, and a text that reads as not-a-number
behind the first one. -/
def Sheet.nanColumn : Sheet :=
  .ofColumn ["20", "nan", "19", "18", "17", "16", "15", "14", "13", "12", "11", "10", "9", "8", "7", "6",
    "5", "4", "3", "2", "1"]

/-- The column down to its last row. -/
def Grid.Block.firstTwentyOne : Block :=
  .ofCorners ⟨1, 1, one_mem_rows, one_mem_columns⟩ ⟨21, 1, by decide, one_mem_columns⟩

namespace Workbook

/-- A workbook with that sheet alone. -/
def nanColumn : Workbook where
  sheets := [Sheet.nanColumn]

theorem names_nanColumn : nanColumn.Names ⟨none, "A1:A21"⟩ 0 Sheet.nanColumn .firstTwentyOne where
  indexOf?_eq := rfl
  sheet_eq := rfl
  parse?_eq := rfl

/-- The keys are found to be in no order. -/
theorem sort_nanColumn :
    nanColumn.sort ⟨none, "A1:A21"⟩ 0 true = .error (.stop .disorder) := by
  have hnone : Sheet.nanColumn.cells.sortRows?
      (Sheet.nanColumn.areaToSort "A1:A21" .firstTwentyOne (Block.firstTwentyOne.left + 0))
      (Block.firstTwentyOne.left + 0) true = none := by decide +kernel
  rw [names_nanColumn.sort (by decide), hnone]

/-- Two sorts of a block that an address names, by a column of it. One has no sheet to sort, and the other
finds no order: `nan` is level with all other keys, and so the two ends of a merge do not meet. -/
theorem sort_stops :
    (noSheets.resolve ⟨none, "A1:A21"⟩ = .ok (0, .firstTwentyOne) ∧
      (host.sort ⟨none, "A1:A21"⟩ 0 true).run noSheets = (.error (.stop .noSheet), noSheets)) ∧
    nanColumn.resolve ⟨none, "A1:A21"⟩ = .ok (0, .firstTwentyOne) ∧
      (host.sort ⟨none, "A1:A21"⟩ 0 true).run nanColumn = (.error (.stop .disorder), nanColumn) := by
  exact ⟨⟨rfl, rfl⟩, names_nanColumn.resolve_eq, run_sort_of_error sort_nanColumn⟩

end Workbook

end SheetScript
