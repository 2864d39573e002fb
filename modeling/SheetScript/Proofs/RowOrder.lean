import Mathlib.Logic.Equiv.Basic
import SheetScript.Proofs.Lines

/-!
# Rows in another order

Moving and swapping rows put the rows of a sheet into another order. The order is given as the list of
the old row numbers from top to bottom; it is worked out without any index arithmetic, and the steps
that a row macro stands for are shown to arrive at it.

- `movedRows`: the order after one row is taken out and put back next to another row.
- `map_shownRow`: the row number arithmetic of a move arrives at `movedRows`.
- `Sheet.getAt_moveInto`: inserting a row, copying the source onto it and deleting the source shows in
  each row what `shownRow` says, provided the last row is free.
- `Sheet.getAt_swapBy`: the five steps by way of a scratch row swap two rows and leave nothing behind.
-/

namespace SheetScript

open Grid

/-! ## Consecutive numbers -/

/-- Consecutive numbers, cut in front of one of them. -/
theorem range'_cut {a n b : Nat} (hab : a ≤ b) (hb : b ≤ a + n) :
    List.range' a n = List.range' a (b - a) ++ List.range' b (a + n - b) := by
  have hstart : a + (b - a) = b := by omega
  have hlength : n = (b - a) + (a + n - b) := by omega
  conv_lhs => rw [hlength, ← List.range'_append_1, hstart]

theorem range'_head {a n : Nat} (h : 0 < n) :
    List.range' a n = a :: List.range' (a + 1) (n - 1) := by
  conv_lhs => rw [← Nat.sub_add_cancel h, List.range'_succ]

theorem range'_last {a b : Nat} (h : a ≤ b) :
    List.range' a (b + 1 - a) = List.range' a (b - a) ++ [b] := by
  rw [range'_cut h (by omega), show a + (b + 1 - a) - b = 1 by omega]
  rfl

/-- A function that shifts some consecutive numbers maps them to consecutive numbers. -/
theorem map_range'_of_shift {f : Nat → Nat} {a b n : Nat} (h : ∀ i < n, f (a + i) = b + i) :
    (List.range' a n).map f = List.range' b n := by
  refine List.ext_getElem (by simp) fun i h₁ _ => ?_
  simpa using h i (by simpa using h₁)

/-! ## The order after a move -/

/-- The rows of the grid from top to bottom. -/
def allRows : List Nat :=
  List.range' 1 maxRows

/-- The rows of the grid are the numbers up to the last one. -/
theorem mem_allRows {row : Nat} : row ∈ allRows ↔ 1 ≤ row ∧ row ≤ maxRows := by
  rw [allRows, List.mem_range'_1]
  omega

theorem nodup_allRows : allRows.Nodup :=
  List.nodup_range'

/-- The rows of the grid in the order they are in once row `source` is taken out and put back right
behind row `target`, or right in front of it. -/
def movedRows (source target : Nat) (after : Bool) : List Nat :=
  if source = target then allRows
  else (allRows.erase source).flatMap fun row =>
    if row = target then (if after then [target, source] else [source, target]) else [row]

/-- Whether row `source` already stands right behind row `target`, or right in front of it. A row counts
as standing next to itself. -/
def StandsThere (source target : Nat) (after : Bool) : Prop :=
  source = target ∨ if after then source = target + 1 else source + 1 = target

/-- All rows, cut at two of them. -/
theorem allRows_eq {a b : Nat} (ha : 1 ≤ a) (hab : a < b) (hb : b ≤ maxRows) :
    allRows = List.range' 1 (a - 1) ++
      a :: (List.range' (a + 1) (b - a - 1) ++ b :: List.range' (b + 1) (maxRows - b)) := by
  have hlength : 1 + maxRows - a - 1 = maxRows - a := by omega
  have hlength' : a + 1 + (maxRows - a) - b - 1 = maxRows - b := by omega
  rw [allRows, range'_cut ha (by omega), range'_head (a := a) (by omega), hlength,
    range'_cut (a := a + 1) hab (by omega), range'_head (a := b) (by omega), hlength', Nat.sub_sub]

/-- Where a row does not occur, nothing is put in its place. -/
theorem flatMap_of_not_mem {rows : List Nat} {target : Nat} (h : target ∉ rows)
    (there : List Nat) :
    (rows.flatMap fun row => if row = target then there else [row]) = rows := by
  induction rows with
  | nil => rfl
  | cons row rows ih =>
    rw [List.mem_cons, not_or] at h
    rw [List.flatMap_cons, ih h.2, if_neg (fun heq => h.1 heq.symm)]
    rfl

/-- The order after a move downwards, cut at the target. -/
theorem movedRows_of_lt {source target : Nat} (after : Bool) (hs : 1 ≤ source)
    (h : source < target) (ht : target ≤ maxRows) :
    movedRows source target after = List.range' 1 (source - 1) ++
      (List.range' (source + 1) (target - source - 1) ++
        ((if after then [target, source] else [source, target]) ++
          List.range' (target + 1) (maxRows - target))) := by
  -- the source is erased between the first two parts, the target stands before the last one
  rw [movedRows, if_neg (Nat.ne_of_lt h), allRows_eq hs h ht,
    List.erase_append_right _ (by rw [List.mem_range'_1]; omega), List.erase_cons_head,
    List.flatMap_append, List.flatMap_append, List.flatMap_cons, if_pos rfl,
    flatMap_of_not_mem (by rw [List.mem_range'_1]; omega),
    flatMap_of_not_mem (by rw [List.mem_range'_1]; omega),
    flatMap_of_not_mem (by rw [List.mem_range'_1]; omega)]

/-- The order after a move upwards, cut at the target. -/
theorem movedRows_of_gt {source target : Nat} (after : Bool) (ht : 1 ≤ target)
    (h : target < source) (hs : source ≤ maxRows) :
    movedRows source target after = List.range' 1 (target - 1) ++
      ((if after then [target, source] else [source, target]) ++
        (List.range' (target + 1) (source - target - 1) ++
          List.range' (source + 1) (maxRows - source))) := by
  rw [movedRows, if_neg (Nat.ne_of_gt h), allRows_eq ht h hs,
    List.erase_append_right _ (by rw [List.mem_range'_1]; omega),
    List.erase_cons_tail (by simpa using Nat.ne_of_lt h),
    List.erase_append_right _ (by rw [List.mem_range'_1]; omega), List.erase_cons_head,
    List.flatMap_append, List.flatMap_cons, List.flatMap_append, if_pos rfl,
    flatMap_of_not_mem (by rw [List.mem_range'_1]; omega),
    flatMap_of_not_mem (by rw [List.mem_range'_1]; omega),
    flatMap_of_not_mem (by rw [List.mem_range'_1]; omega)]

/-! ## The arithmetic of a move -/

/-- The old number of the row that is shown in `row` after `source` went into a row inserted at
`insertAt`. -/
def shownRow (source insertAt row : Nat) : Nat :=
  if source < insertAt then
    if row < source then row
    else if row + 1 < insertAt then row + 1
    else if row + 1 = insertAt then source
    else row
  else if row < insertAt then row
  else if row = insertAt then source
  else if row ≤ source then row - 1
  else row

/-- Where a row is inserted for a move next to `target`. -/
def insertionRow (target : Nat) (after : Bool) : Nat :=
  if after then target + 1 else target

/-- Where the source row is once a row was inserted. -/
def pushedRow (source insertAt : Nat) : Nat :=
  if source < insertAt then source else source + 1

/-- No row is inserted before the first one. -/
theorem one_le_insertionRow {target : Nat} {after : Bool} (h : 1 ≤ target) :
    1 ≤ insertionRow target after := by
  unfold insertionRow
  split <;> omega

theorem one_le_pushedRow {source insertAt : Nat} (h : 1 ≤ source) :
    1 ≤ pushedRow source insertAt := by
  unfold pushedRow
  split <;> omega

/-- Where a row is inserted, the moved row stands, or the one that came up to close its gap. -/
theorem shownRow_insertAt (source insertAt : Nat) :
    shownRow source insertAt insertAt = if source < insertAt then insertAt else source := by
  unfold shownRow
  split_ifs <;> omega

/-- A row that moves down lets the rows between its places move up by one. -/
theorem map_shownRow_of_lt {source insertAt : Nat} (hs : 1 ≤ source) (h : source < insertAt)
    (hi : insertAt ≤ maxRows + 1) :
    allRows.map (shownRow source insertAt) = List.range' 1 (source - 1) ++
      (List.range' (source + 1) (insertAt - source - 1) ++
        source :: List.range' insertAt (maxRows + 1 - insertAt)) := by
  -- rows that stay, rows that move up, the landing place, and rows that are pushed down and up again
  have hcut : allRows = List.range' 1 (source - 1) ++
      (List.range' source (insertAt - source - 1) ++
        (insertAt - 1) :: List.range' insertAt (maxRows + 1 - insertAt)) := by
    rw [allRows, range'_cut hs (by omega),
      range'_cut (a := source) (b := insertAt - 1) (by omega) (by omega),
      range'_head (a := insertAt - 1) (by omega),
      show insertAt - 1 - source = insertAt - source - 1 by omega,
      show source + (1 + maxRows - source) - (insertAt - 1) - 1 = maxRows + 1 - insertAt by omega,
      show insertAt - 1 + 1 = insertAt by omega]
  have hlanding : shownRow source insertAt (insertAt - 1) = source := by
    unfold shownRow
    split_ifs <;> omega
  rw [hcut, List.map_append, List.map_append, List.map_cons, hlanding,
    map_range'_of_shift (b := 1) (fun i hi => ?_),
    map_range'_of_shift (b := source + 1) (fun i hi => ?_),
    map_range'_of_shift (b := insertAt) (fun i hi => ?_)]
  all_goals
    unfold shownRow
    split_ifs <;> omega

/-- A row that moves up lets the rows between its places move down by one. -/
theorem map_shownRow_of_ge {source insertAt : Nat} (hi : 1 ≤ insertAt) (h : insertAt ≤ source)
    (hs : source ≤ maxRows) :
    allRows.map (shownRow source insertAt) = List.range' 1 (insertAt - 1) ++
      source :: (List.range' insertAt (source - insertAt) ++
        List.range' (source + 1) (maxRows - source)) := by
  -- rows that stay, the landing place, rows that move down, and rows that come back to their place
  have hcut : allRows = List.range' 1 (insertAt - 1) ++
      insertAt :: (List.range' (insertAt + 1) (source - insertAt) ++
        List.range' (source + 1) (maxRows - source)) := by
    rw [allRows, range'_cut hi (by omega), range'_head (a := insertAt) (by omega),
      range'_cut (a := insertAt + 1) (b := source + 1) (by omega) (by omega),
      show source + 1 - (insertAt + 1) = source - insertAt by omega,
      show insertAt + 1 + (1 + maxRows - insertAt - 1) - (source + 1) = maxRows - source by omega]
  have hlanding : shownRow source insertAt insertAt = source := by
    unfold shownRow
    split_ifs <;> omega
  rw [hcut, List.map_append, List.map_cons, List.map_append, hlanding,
    map_range'_of_shift (b := 1) (fun i hi => ?_),
    map_range'_of_shift (b := insertAt) (fun i hi => ?_),
    map_range'_of_shift (b := source + 1) (fun i hi => ?_)]
  all_goals
    unfold shownRow
    split_ifs <;> omega

/-- A row that stands there already would be inserted next to itself. -/
theorem StandsThere.insertionRow {source target : Nat} {after : Bool}
    (h : StandsThere source target after) :
    insertionRow target after = source ∨ insertionRow target after = source + 1 := by
  unfold StandsThere at h
  unfold SheetScript.insertionRow
  cases after <;> simp only [if_true, Bool.false_eq_true, if_false] at h ⊢ <;> omega

/-- A row that is inserted next to itself leaves all rows where they are. -/
theorem shownRow_of_unmoved {source insertAt : Nat}
    (h : insertAt = source ∨ insertAt = source + 1) (row : Nat) :
    shownRow source insertAt row = row := by
  unfold shownRow
  split_ifs <;> omega

/-- The row number arithmetic of a move arrives at the order that the move is meant to give. -/
theorem map_shownRow {source target : Nat} (after : Bool) (hs : 1 ≤ source ∧ source ≤ maxRows)
    (ht : 1 ≤ target ∧ target ≤ maxRows) :
    allRows.map (shownRow source (insertionRow target after)) = movedRows source target after := by
  -- the row moves down, stays where it is, or moves up
  rcases Nat.lt_trichotomy source target with h | h | h
  · rw [movedRows_of_lt after hs.1 h ht.2]
    cases after with
    | true =>
      show allRows.map (shownRow source (target + 1)) = _
      rw [map_shownRow_of_lt hs.1 (by omega) (by omega),
        show target + 1 - source - 1 = target + 1 - (source + 1) by omega, range'_last h,
        show maxRows + 1 - (target + 1) = maxRows - target by omega]
      simp [Nat.sub_sub]
    | false =>
      show allRows.map (shownRow source target) = _
      rw [map_shownRow_of_lt hs.1 h (by omega), range'_head (a := target) (by omega),
        show maxRows + 1 - target - 1 = maxRows - target by omega]
      simp
  · subst h
    have hid : shownRow source (insertionRow source after) = id := by
      funext row
      refine shownRow_of_unmoved ?_ row
      cases after
      · exact Or.inl rfl
      · exact Or.inr rfl
    rw [movedRows, if_pos rfl, hid, List.map_id]
  · rw [movedRows_of_gt after ht.1 h hs.2]
    cases after with
    | true =>
      show allRows.map (shownRow source (target + 1)) = _
      rw [map_shownRow_of_ge (by omega) h hs.2, range'_last ht.1, Nat.sub_sub]
      simp
    | false =>
      show allRows.map (shownRow source target) = _
      rw [map_shownRow_of_ge ht.1 (by omega) hs.2, range'_head (a := target) (by omega)]
      simp

/-! ## Sheets -/

/-- The rows of the cells from top to bottom, each with all its columns. -/
def Cells.rowList (cells : Cells) : List (Nat → Cell) :=
  allRows.map cells.getAt

namespace Sheet

/-- Whether no cell of the last row is in use. -/
def LastRowFree (s : Sheet) : Prop :=
  ∀ p : Position, p.row = maxRows → s.cells.get p = .blank

instance (s : Sheet) : Decidable s.LastRowFree :=
  decidable_of_iff (∀ e ∈ s.cells.toList, e.1.row = maxRows → e.2 = .blank)
    (Cells.forall_get_iff (P := fun p c => p.row = maxRows → c = .blank) fun _ _ => rfl).symm

/-- No cell of a free last row is in use. -/
theorem LastRowFree.getAt {s : Sheet} (h : s.LastRowFree) (col : Nat) :
    s.cells.getAt maxRows col = .blank := by
  rw [Cells.getAt]
  cases hat : Position.at? maxRows col with
  | none => rfl
  | some p => exact h p (Position.at?_eq_some_iff.mp hat).1

/-- Past the last row there is nothing. -/
theorem getAt_past_last (cells : Cells) {row : Nat} (h : maxRows < row) (col : Nat) :
    cells.getAt row col = .blank :=
  Cells.getAt_of_not_within _ (by omega)

/-- A sheet that differs from another one in its cells only. -/
theorem withCells_eq {s t : Sheet} (hname : t.name = s.name) (hcharts : t.charts = s.charts) :
    { s with cells := t.cells } = t := by
  rw [← hname, ← hcharts]

/-- Copy a whole row onto another one of the same sheet. -/
def copyRow (s : Sheet) {a b : Nat} (ha : 1 ≤ a ∧ a ≤ maxRows) (hb : 1 ≤ b ∧ b ≤ maxRows) :
    Sheet :=
  s.pasteBlock (.row a ha) s.cells (Block.row b hb).topLeft

@[simp] theorem name_copyRow (s : Sheet) {a b : Nat} (ha : 1 ≤ a ∧ a ≤ maxRows)
    (hb : 1 ≤ b ∧ b ≤ maxRows) : (s.copyRow ha hb).name = s.name := rfl

@[simp] theorem charts_copyRow (s : Sheet) {a b : Nat} (ha : 1 ≤ a ∧ a ≤ maxRows)
    (hb : 1 ≤ b ∧ b ≤ maxRows) : (s.copyRow ha hb).charts = s.charts := rfl

/-- A copy of a row shows that row in its place and nothing else anew. -/
theorem getAt_copyRow (s : Sheet) {a b : Nat} (ha : 1 ≤ a ∧ a ≤ maxRows)
    (hb : 1 ≤ b ∧ b ≤ maxRows) (row col : Nat) :
    (s.copyRow ha hb).cells.getAt row col =
      if row = b then s.cells.getAt a col else s.cells.getAt row col :=
  getAt_pasteRow row col

/-- Insert one row. -/
def insertRow (s : Sheet) {k : Nat} (hk : 1 ≤ k ∧ k ≤ maxRows) : Sheet :=
  s.insertLines (.row k hk)

@[simp] theorem name_insertRow (s : Sheet) {k : Nat} (hk : 1 ≤ k ∧ k ≤ maxRows) :
    (s.insertRow hk).name = s.name := rfl

@[simp] theorem charts_insertRow (s : Sheet) {k : Nat} (hk : 1 ≤ k ∧ k ≤ maxRows) :
    (s.insertRow hk).charts = s.charts := rfl

/-- Below an inserted row everything shows one row later. -/
theorem getAt_insertRow (s : Sheet) {k : Nat} (hk : 1 ≤ k ∧ k ≤ maxRows) {row : Nat}
    (hrow : row ≤ maxRows) (col : Nat) :
    (s.insertRow hk).cells.getAt row col =
      if row < k then s.cells.getAt row col
      else if row ≤ k then .blank
      else s.cells.getAt (row - 1) col := by
  rw [insertRow, getAt_insertLines rfl hrow, Span.count_row]
  rfl

/-- Delete one row. -/
def deleteRow (s : Sheet) {k : Nat} (hk : 1 ≤ k ∧ k ≤ maxRows) : Sheet :=
  s.deleteLines (.row k hk)

@[simp] theorem name_deleteRow (s : Sheet) {k : Nat} (hk : 1 ≤ k ∧ k ≤ maxRows) :
    (s.deleteRow hk).name = s.name := rfl

@[simp] theorem charts_deleteRow (s : Sheet) {k : Nat} (hk : 1 ≤ k ∧ k ≤ maxRows) :
    (s.deleteRow hk).charts = s.charts := rfl

/-- From a deleted row on everything shows one row earlier. -/
theorem getAt_deleteRow (s : Sheet) {k : Nat} (hk : 1 ≤ k ∧ k ≤ maxRows) (row col : Nat) :
    (s.deleteRow hk).cells.getAt row col =
      if row < k then s.cells.getAt row col else s.cells.getAt (row + 1) col := by
  rw [deleteRow, getAt_deleteLines rfl, Span.count_row]
  rfl

/-! ## Moving a row -/

/-- Insert a row, copy the source onto it, and delete the source. -/
def moveInto (s : Sheet) {source insertAt : Nat} (hi : 1 ≤ insertAt ∧ insertAt ≤ maxRows)
    (hp : 1 ≤ pushedRow source insertAt ∧ pushedRow source insertAt ≤ maxRows) : Sheet :=
  ((s.insertRow hi).copyRow hp hi).deleteRow hp

/-- Only the cells change in a move. -/
theorem eq_moveInto (s : Sheet) {source insertAt : Nat}
    (hi : 1 ≤ insertAt ∧ insertAt ≤ maxRows)
    (hp : 1 ≤ pushedRow source insertAt ∧ pushedRow source insertAt ≤ maxRows) :
    { s with cells := (s.moveInto hi hp).cells } = s.moveInto hi hp :=
  withCells_eq (by simp [moveInto]) (by simp [moveInto])

/-- An insertion, a copy and a deletion show each row where it is to be after the move. -/
theorem getAt_moveInto {s : Sheet} {source insertAt : Nat}
    (hi : 1 ≤ insertAt ∧ insertAt ≤ maxRows)
    (hp : 1 ≤ pushedRow source insertAt ∧ pushedRow source insertAt ≤ maxRows)
    (hlast : s.LastRowFree) {row : Nat} (hrow : row ≤ maxRows) (col : Nat) :
    (s.moveInto hi hp).cells.getAt row col = s.cells.getAt (shownRow source insertAt row) col := by
  -- the rows after the insertion and the copy, as far as the grid goes
  have hcopied : ∀ {r}, r ≤ maxRows → ((s.insertRow hi).copyRow hp hi).cells.getAt r col =
      if r = insertAt then s.cells.getAt source col
      else if r < insertAt then s.cells.getAt r col
      else s.cells.getAt (r - 1) col := by
    intro r hr
    rw [getAt_copyRow, getAt_insertRow s hi hp.2, getAt_insertRow s hi hr]
    unfold pushedRow
    split_ifs <;> first | rfl | omega
  rw [moveInto, getAt_deleteRow]
  rcases Nat.lt_or_ge row maxRows with hlt | hge
  · rw [hcopied hrow, hcopied (show row + 1 ≤ maxRows by omega)]
    unfold pushedRow shownRow
    split_ifs <;> first | rfl | omega
  · -- the row that moves up into the last one comes from past the grid
    obtain rfl : row = maxRows := Nat.le_antisymm hrow hge
    have hshown : shownRow source insertAt maxRows = maxRows := by
      have hpushed := hp.2
      unfold pushedRow at hpushed
      unfold shownRow
      split_ifs at hpushed ⊢ <;> omega
    rw [if_neg (Nat.not_lt.mpr hp.2), getAt_past_last _ (Nat.lt_succ_self _), hshown,
      hlast.getAt]

/-- The rows of a sheet after a move are the old ones in the order that the move gives. -/
theorem rowList_moveInto {s : Sheet} {source target : Nat} {after : Bool}
    (hs : 1 ≤ source ∧ source ≤ maxRows) (ht : 1 ≤ target ∧ target ≤ maxRows)
    (hi : 1 ≤ insertionRow target after ∧ insertionRow target after ≤ maxRows)
    (hp : 1 ≤ pushedRow source (insertionRow target after) ∧
      pushedRow source (insertionRow target after) ≤ maxRows)
    (hlast : s.LastRowFree) :
    (s.moveInto hi hp).cells.rowList = (movedRows source target after).map s.cells.getAt := by
  rw [← map_shownRow after hs ht, List.map_map, Cells.rowList]
  refine List.map_congr_left fun row hrow => funext fun col => ?_
  exact getAt_moveInto hi hp hlast (mem_allRows.mp hrow).2 col

/-- A row that already stands at its place moves nowhere. -/
theorem moveInto_eq_self {s : Sheet} {source insertAt : Nat}
    (hi : 1 ≤ insertAt ∧ insertAt ≤ maxRows)
    (hp : 1 ≤ pushedRow source insertAt ∧ pushedRow source insertAt ≤ maxRows)
    (hlast : s.LastRowFree) (h : insertAt = source ∨ insertAt = source + 1) :
    s.moveInto hi hp = s := by
  have hcells : (s.moveInto hi hp).cells = s.cells := by
    refine Cells.ext_getAt fun row col _ hrow => ?_
    rw [getAt_moveInto hi hp hlast hrow, shownRow_of_unmoved h]
  rw [← eq_moveInto, hcells]

/-! ## Swapping two rows -/

/-- Swap two rows by way of a scratch row that is inserted for it. -/
def swapBy (s : Sheet) {a b scratch : Nat} (ha : 1 ≤ a ∧ a ≤ maxRows) (hb : 1 ≤ b ∧ b ≤ maxRows)
    (ht : 1 ≤ scratch ∧ scratch ≤ maxRows) : Sheet :=
  ((((s.insertRow ht).copyRow ha ht).copyRow hb ha).copyRow ht hb).deleteRow ht

/-- Only the cells change in a swap. -/
theorem eq_swapBy (s : Sheet) {a b scratch : Nat} (ha : 1 ≤ a ∧ a ≤ maxRows)
    (hb : 1 ≤ b ∧ b ≤ maxRows) (ht : 1 ≤ scratch ∧ scratch ≤ maxRows) :
    { s with cells := (s.swapBy ha hb ht).cells } = s.swapBy ha hb ht :=
  withCells_eq (by simp [swapBy]) (by simp [swapBy])

/-- Three copies over a scratch row show two rows exchanged, and the scratch row is gone. -/
theorem getAt_swapBy {s : Sheet} {a b scratch : Nat} (ha : 1 ≤ a ∧ a ≤ maxRows)
    (hb : 1 ≤ b ∧ b ≤ maxRows) (ht : 1 ≤ scratch ∧ scratch ≤ maxRows)
    (hscratch : scratch = max a b + 1) (hlast : s.LastRowFree) (row col : Nat) :
    (s.swapBy ha hb ht).cells.getAt row col = s.cells.getAt (Equiv.swap a b row) col := by
  -- the rows before the scratch row goes, as far as the grid goes
  have hcopied : ∀ {r}, r ≤ maxRows →
      ((((s.insertRow ht).copyRow ha ht).copyRow hb ha).copyRow ht hb).cells.getAt r col =
        if r = b then s.cells.getAt a col
        else if r = a then s.cells.getAt b col
        else if r < scratch then s.cells.getAt r col
        else if r = scratch then s.cells.getAt a col
        else s.cells.getAt (r - 1) col := by
    intro r hr
    simp only [getAt_copyRow, getAt_insertRow s ht hr, getAt_insertRow s ht ha.2,
      getAt_insertRow s ht hb.2, getAt_insertRow s ht ht.2]
    split_ifs <;> first | rfl | omega
  rw [swapBy, getAt_deleteRow, Equiv.swap_apply_def]
  rcases Nat.lt_or_ge row maxRows with hlt | hge
  · rw [hcopied (Nat.le_of_lt hlt), hcopied (show row + 1 ≤ maxRows by omega)]
    split_ifs <;> first | rfl | omega | (subst_vars; rfl)
  · -- the scratch row is on the grid, so the two rows are above the last one
    rw [if_neg (by omega), getAt_past_last _ (by omega), if_neg (by omega), if_neg (by omega)]
    rcases Nat.lt_or_ge maxRows row with hgt | hle
    · rw [getAt_past_last _ hgt]
    · obtain rfl : row = maxRows := Nat.le_antisymm hle hge
      rw [hlast.getAt]

end Sheet

end SheetScript
