import Mathlib.Data.List.Perm.Basic
import Mathlib.Data.List.Perm.Subperm
import SheetScript.Proofs.RowOrder

/-!
# What the cells hold, wherever they are

The contents of a sheet are the cells in use without their positions. They are counted row by row, so
that moving rows around leaves them alone and deleting a row takes away the contents of that row.

- `Cells.contents`: the cells in use, as a list in which only the number of occurrences matters.
- `Cells.KeptIn`: everything in one collection of cells occurs at least as often in another one.
- `rowContents`, `Cells.contents_perm`: the contents are those of the rows.
- `Cells.contents_perm_of_rowList`, `Cells.contents_perm_of_swap`: rows in another order.
- `Sheet.contents_moveInto`, `Sheet.contents_deleteRow`: what a move and a deletion do to them.
-/

namespace SheetScript

open Grid

/-! ## Contents -/

/-- The cells of a row that are in use. -/
def rowContents (row : Nat → Cell) : List Cell :=
  ((List.range' 1 maxColumns).map row).filter (!·.isBlank)

namespace Cells

/-- The cells in use. -/
def contents (cells : Cells) : List Cell :=
  cells.toList.map Prod.snd

/-- Whether every cell of `a` occurs in `b` at least as often as in `a`. -/
def KeptIn (a b : Cells) : Prop :=
  ∀ c, a.contents.count c ≤ b.contents.count c

/-- The positions of a row of the grid. -/
def rowPositions (r : Nat) : List Position :=
  (List.range' 1 maxColumns).filterMap (Position.at? r)

theorem mem_rowPositions {r : Nat} {p : Position} : p ∈ rowPositions r ↔ p.row = r := by
  have hcol := p.col_mem
  simp only [rowPositions, List.mem_filterMap, Position.at?_eq_some_iff, List.mem_range'_1]
  constructor
  · rintro ⟨col, -, hrow, -⟩
    exact hrow
  · exact fun hrow => ⟨p.col, by omega, hrow, rfl⟩

theorem nodup_rowPositions (r : Nat) : (rowPositions r).Nodup := by
  refine List.Nodup.filterMap (fun col col' p h h' => ?_) List.nodup_range'
  rw [Option.mem_def, Position.at?_eq_some_iff] at h h'
  exact h.2.symm.trans h'.2

/-- The used cells at some positions, listed in any order, are what the positions show. -/
theorem perm_of_mem_iff {cells : Cells} {entries : List (Position × Cell)} {ps : List Position}
    (hkeys : (entries.map Prod.fst).Nodup) (hps : ps.Nodup)
    (hmem : ∀ p c, (p, c) ∈ entries ↔ p ∈ ps ∧ cells.get p = c ∧ c.isBlank = false) :
    (entries.map Prod.snd).Perm ((ps.map cells.get).filter (!·.isBlank)) := by
  have hshown : (ps.map cells.get).filter (!·.isBlank) =
      ((ps.filter fun p => !(cells.get p).isBlank).map fun p => (p, cells.get p)).map Prod.snd := by
    rw [List.filter_map, List.map_map]
    rfl
  rw [hshown]
  -- neither list has a position twice, so they need only have the same members
  refine List.Perm.map _ ((List.perm_ext_iff_of_nodup (List.Nodup.of_map _ hkeys) ?_).mpr ?_)
  · exact (hps.filter _).map fun p q h => congrArg Prod.fst h
  · rintro ⟨p, c⟩
    rw [hmem]
    simp only [List.mem_map, List.mem_filter, Prod.mk.injEq, Bool.not_eq_true']
    constructor
    · rintro ⟨hp, rfl, hc⟩
      exact ⟨p, ⟨hp, hc⟩, rfl, rfl⟩
    · rintro ⟨p, ⟨hp, hc⟩, rfl, rfl⟩
      exact ⟨hp, rfl, hc⟩

theorem map_get_rowPositions (cells : Cells) {r : Nat} (hr : 1 ≤ r ∧ r ≤ maxRows) :
    (rowPositions r).map cells.get = (List.range' 1 maxColumns).map (cells.getAt r) := by
  rw [rowPositions, List.map_filterMap, ← List.filterMap_eq_map]
  refine List.filterMap_congr fun col hcol => ?_
  rw [List.mem_range'_1] at hcol
  have hat : Position.at? r col = some ⟨r, col, hr, by omega⟩ := Position.at?_eq_some_iff.mpr ⟨rfl, rfl⟩
  simp [getAt, hat]

theorem nodup_positions : (allRows.flatMap rowPositions).Nodup := by
  rw [List.nodup_flatMap]
  refine ⟨fun r _ => nodup_rowPositions r, ?_⟩
  refine List.Pairwise.imp ?_ nodup_allRows
  intro r r' hne p hp hp'
  exact hne ((mem_rowPositions.mp hp).symm.trans (mem_rowPositions.mp hp'))

/-- The contents are those of the rows. -/
theorem contents_perm (cells : Cells) :
    cells.contents.Perm (cells.rowList.flatMap rowContents) := by
  have hrows : cells.rowList.flatMap rowContents =
      ((allRows.flatMap rowPositions).map cells.get).filter (!·.isBlank) := by
    rw [rowList, List.flatMap_map, List.map_flatMap, List.filter_flatMap]
    refine List.flatMap_congr fun r hr => ?_
    rw [cells.map_get_rowPositions (mem_allRows.mp hr), rowContents]
  rw [hrows]
  refine perm_of_mem_iff cells.nodup_keys_toList nodup_positions fun p c => ?_
  have hp : p ∈ allRows.flatMap rowPositions :=
    List.mem_flatMap.mpr ⟨p.row, mem_allRows.mpr p.row_mem, mem_rowPositions.mpr rfl⟩
  simp [mem_toList, hp]

/-- The used cells of a row are its contents. -/
theorem map_snd_within_row (cells : Cells) {r : Nat} (hr : 1 ≤ r ∧ r ≤ maxRows) :
    ((cells.within (.row r hr)).map Prod.snd).Perm (rowContents (cells.getAt r)) := by
  rw [rowContents, ← cells.map_get_rowPositions hr]
  refine perm_of_mem_iff ?_ (nodup_rowPositions r) fun p c => ?_
  · exact cells.nodup_keys_toList.sublist (List.filter_sublist.map Prod.fst)
  · rw [within, List.mem_filter, mem_toList, Block.contains_row, mem_rowPositions]
    exact and_comm

end Cells

/-! ## Rows in another order -/

/-- A row that is put back next to another one makes up for having been taken out. -/
theorem putBack_perm {source target : Nat} (after : Bool) {rows : List Nat} (hrows : rows.Nodup)
    (h : target ∈ rows) :
    (rows.flatMap fun row => if row = target then
      (if after then [target, source] else [source, target]) else [row]).Perm
        (source :: rows) := by
  induction rows with
  | nil => cases h
  | cons row rows ih =>
    rw [List.nodup_cons] at hrows
    rw [List.flatMap_cons]
    by_cases hrow : row = target
    · -- the target does not come again, so the rows behind it stay as they are
      subst hrow
      rw [if_pos rfl, flatMap_of_not_mem hrows.1]
      cases after
      · exact List.Perm.refl _
      · exact List.Perm.swap _ _ _
    · rw [if_neg hrow]
      have hrest := (List.mem_cons.mp h).resolve_left (fun heq => hrow heq.symm)
      exact ((ih hrows.2 hrest).cons row).trans (List.Perm.swap _ _ _)

/-- A move puts the rows of the grid into another order and loses none. -/
theorem movedRows_perm {source target : Nat} (after : Bool) (hs : 1 ≤ source ∧ source ≤ maxRows)
    (ht : 1 ≤ target ∧ target ≤ maxRows) : (movedRows source target after).Perm allRows := by
  rw [movedRows]
  split
  · exact List.Perm.refl _
  next hne =>
    have htarget : target ∈ allRows.erase source :=
      (List.mem_erase_of_ne (Ne.symm hne)).mpr (mem_allRows.mpr ht)
    exact (putBack_perm after (nodup_allRows.erase source) htarget).trans
      (List.perm_cons_erase (mem_allRows.mpr hs)).symm

/-- Swapping two row numbers puts the rows of the grid into another order. -/
theorem map_swap_perm {a b : Nat} (ha : 1 ≤ a ∧ a ≤ maxRows) (hb : 1 ≤ b ∧ b ≤ maxRows) :
    (allRows.map (Equiv.swap a b)).Perm allRows := by
  have hmapped := nodup_allRows.map (Equiv.injective (Equiv.swap a b))
  refine (List.perm_ext_iff_of_nodup hmapped nodup_allRows).mpr fun r => ?_
  have hinv : Function.Involutive (Equiv.swap a b) := fun r => by simp
  rw [List.mem_map_of_involutive hinv, mem_allRows, mem_allRows, Equiv.swap_apply_def]
  split_ifs <;> omega

/-- Cells that show the rows of others in another order have the same contents. -/
theorem Cells.contents_perm_of_rowList {a b : Cells} {rows : List Nat} (hrows : rows.Perm allRows)
    (h : a.rowList = rows.map b.getAt) : a.contents.Perm b.contents := by
  refine (a.contents_perm.trans ?_).trans b.contents_perm.symm
  rw [h, rowList]
  exact (hrows.map b.getAt).flatMap_right rowContents

/-- Cells that show two rows of others in each other's place have the same contents. -/
theorem Cells.contents_perm_of_swap {x y : Cells} {a b : Nat} (ha : 1 ≤ a ∧ a ≤ maxRows)
    (hb : 1 ≤ b ∧ b ≤ maxRows)
    (h : ∀ row col, x.getAt row col = y.getAt (Equiv.swap a b row) col) :
    x.contents.Perm y.contents := by
  refine contents_perm_of_rowList (map_swap_perm ha hb) ?_
  rw [rowList, List.map_map]
  exact List.map_congr_left fun row _ => funext fun col => h row col

namespace Sheet

variable {s : Sheet} {source target k : Nat} {after : Bool}

/-- A move loses nothing. -/
theorem contents_moveInto (hs : 1 ≤ source ∧ source ≤ maxRows) (ht : 1 ≤ target ∧ target ≤ maxRows)
    (hi : 1 ≤ insertionRow target after ∧ insertionRow target after ≤ maxRows)
    (hp : 1 ≤ pushedRow source (insertionRow target after) ∧
      pushedRow source (insertionRow target after) ≤ maxRows)
    (hlast : s.LastRowFree) : (s.moveInto hi hp).cells.contents.Perm s.cells.contents :=
  Cells.contents_perm_of_rowList (movedRows_perm after hs ht) (rowList_moveInto hs ht hi hp hlast)

/-- Deleting a row loses the contents of that row and nothing else. -/
theorem contents_deleteRow (s : Sheet) (hk : 1 ≤ k ∧ k ≤ maxRows) :
    s.cells.contents.Perm (rowContents (s.cells.getAt k) ++ (s.deleteRow hk).cells.contents) := by
  have hbefore : s.cells.rowList = (List.range' 1 (k - 1)).map s.cells.getAt ++
      s.cells.getAt k :: (List.range' (k + 1) (maxRows - k)).map s.cells.getAt := by
    rw [Cells.rowList, allRows, range'_cut hk.1 (by omega), range'_head (a := k) (by omega),
      show 1 + maxRows - k - 1 = maxRows - k by omega, List.map_append, List.map_cons]
  -- the rows below move up, and a blank one comes in at the end
  have hafter : (s.deleteRow hk).cells.rowList = (List.range' 1 (k - 1)).map s.cells.getAt ++
      ((List.range' (k + 1) (maxRows - k)).map s.cells.getAt ++ [fun _ => .blank]) := by
    have hshift : List.range' (k + 1) (maxRows - k) = (List.range' k (maxRows - k)).map (· + 1) :=
      (map_range'_of_shift fun i _ => by omega).symm
    rw [Cells.rowList, allRows, range'_cut hk.1 (by omega), Nat.add_comm 1, range'_last hk.2,
      List.map_append, List.map_append, hshift, List.map_map]
    congr 1
    · refine List.map_congr_left fun r hr => funext fun col => ?_
      rw [List.mem_range'_1] at hr
      rw [getAt_deleteRow, if_pos (by omega)]
    · congr 1
      · refine List.map_congr_left fun r hr => funext fun col => ?_
        rw [List.mem_range'_1] at hr
        rw [getAt_deleteRow, if_neg (by omega)]
        rfl
      · refine congrArg (fun row => [row]) (funext fun col => ?_)
        rw [getAt_deleteRow, if_neg (by omega), getAt_past_last _ (Nat.lt_succ_self _)]
  have hblank : rowContents (fun _ => .blank) = [] := by
    rw [rowContents, List.filter_eq_nil_iff]
    simp
  refine s.cells.contents_perm.trans (List.Perm.trans ?_
    ((s.deleteRow hk).cells.contents_perm.symm.append_left _))
  rw [hbefore, hafter]
  simp only [List.flatMap_append, List.flatMap_cons, List.flatMap_nil, hblank, List.append_nil]
  exact List.perm_append_comm_assoc _ _ _

end Sheet

end SheetScript
