import Mathlib.Algebra.Order.BigOperators.Group.List
import Mathlib.Algebra.Order.Ring.Nat
import SheetScript.Proofs.Restoring
import SheetScript.Turn

/-!
# Undoing a row macro

The inverse of a row macro deletes the row that the macro inserted by its number, but by then the macro
has deleted a row itself and another row has that number. Undoing the macro deletes that row, so it
loses nothing only if the row happens to be blank.

- `Sheet.keptIn_deleteRow_iff`: a deleted row is missed unless it was blank.
- `SwapPutBack`, `keptIn_putBack_iff`: a swap whose two rows were put back as far as possible.
- `Editor.TurnUndone`: a turn and an undo right after it.
- `Editor.keptIn_undo_rowMacro_iff`: when undoing a row macro loses nothing.
-/

namespace SheetScript

open Grid

/-! ## Counting contents -/

namespace Cells

/-- Whether no cell of a row is in use. -/
def RowBlank (cells : Cells) (r : Nat) : Prop :=
  ∀ col, cells.getAt r col = .blank

/-- A row without contents is blank. -/
theorem rowContents_eq_nil_iff {cells : Cells} {r : Nat} :
    rowContents (cells.getAt r) = [] ↔ cells.RowBlank r := by
  rw [rowContents, List.filter_eq_nil_iff]
  constructor
  · intro h col
    by_cases hcol : 1 ≤ col ∧ col ≤ maxColumns
    · have := h _ (List.mem_map_of_mem (List.mem_range'_1.mpr (by omega : 1 ≤ col ∧ col < 1 + maxColumns)))
      exact Cell.isBlank_iff.mp (by simpa using this)
    · exact getAt_of_not_within _ (fun hin => hcol hin.2)
  · intro h c hc
    obtain ⟨col, -, rfl⟩ := List.mem_map.mp hc
    rw [h col]
    simp

/-- Cells are counted row by row. -/
theorem countP_contents (P : Cell → Bool) (cells : Cells) :
    cells.contents.countP P =
      (allRows.map fun r => (rowContents (cells.getAt r)).countP P).sum := by
  rw [cells.contents_perm.countP_eq, rowList, List.flatMap_map, List.countP_flatMap]
  rfl

/-- Cells of a kind are rarer if they are so in one row and no more frequent in any other. -/
theorem countP_contents_lt {P : Cell → Bool} {a b : Cells} {k : Nat}
    (hk : 1 ≤ k ∧ k ≤ maxRows)
    (h : ∀ r, (rowContents (a.getAt r)).countP P ≤ (rowContents (b.getAt r)).countP P)
    (hlt : (rowContents (a.getAt k)).countP P < (rowContents (b.getAt k)).countP P) :
    a.contents.countP P < b.contents.countP P := by
  rw [countP_contents, countP_contents]
  exact List.sum_lt_sum _ _ (fun r _ => h r) ⟨k, mem_allRows.mpr hk, hlt⟩

end Cells

/-- A deleted row is missed unless it was blank. -/
theorem Sheet.keptIn_deleteRow_iff {a : Cells} {s : Sheet} {k : Nat} (hk : 1 ≤ k ∧ k ≤ maxRows)
    (h : a.contents.Perm s.cells.contents) :
    a.KeptIn (s.deleteRow hk).cells ↔ s.cells.RowBlank k := by
  have hsplit := s.contents_deleteRow hk
  rw [← Cells.rowContents_eq_nil_iff]
  constructor
  · intro hkept
    have hle : a.contents.Subperm (s.deleteRow hk).cells.contents :=
      List.subperm_ext_iff.mpr fun c _ => hkept c
    have hlength := hle.length_le
    rw [h.length_eq, hsplit.length_eq, List.length_append] at hlength
    exact List.eq_nil_of_length_eq_zero (by omega)
  · intro hnil c
    rw [h.count_eq, hsplit.count_eq, hnil, List.nil_append]

/-- If some cells are rarer than before even without a deletion, something is missed after it. -/
theorem Sheet.not_keptIn_deleteRow {P : Cell → Bool} {a : Cells} {s : Sheet} {k : Nat}
    (hk : 1 ≤ k ∧ k ≤ maxRows) (h : s.cells.contents.countP P < a.contents.countP P) :
    ¬a.KeptIn (s.deleteRow hk).cells := by
  intro hkept
  have hle : a.contents.Subperm (s.deleteRow hk).cells.contents :=
    List.subperm_ext_iff.mpr fun c _ => hkept c
  have hcount := hle.countP_le P
  rw [(s.contents_deleteRow hk).countP_eq, List.countP_append] at h
  omega

/-! ## Swapped rows that are put back -/

/-- Whether all cells of a row are as a user could have typed them, so that they come back unchanged
when they are entered again. -/
def Cells.RowTyped (cells : Cells) (r : Nat) : Prop :=
  ∀ col, (cells.getAt r col).reentered = cells.getAt r col

/-- Entering cells again makes no new contents. -/
theorem length_rowContents_reentered_le (row : Nat → Cell) :
    (rowContents fun col => (row col).reentered).length ≤ (rowContents row).length := by
  rw [rowContents, rowContents, ← List.countP_eq_length_filter, ← List.countP_eq_length_filter,
    List.countP_map, List.countP_map]
  refine List.countP_mono_left fun col _ h => ?_
  by_contra hne
  have hblank : (row col).isBlank = true := by simpa using hne
  rw [Function.comp, Cell.isBlank_iff.mp hblank] at h
  cases h

/-- A cell that is misread when it is entered again is gone from the row. -/
theorem count_rowContents_reentered {c : Cell} (hc : c.reentered ≠ c) (row : Nat → Cell) :
    (rowContents fun col => (row col).reentered).count c = 0 := by
  refine List.count_eq_zero.mpr fun hmem => hc ?_
  obtain ⟨col, -, rfl⟩ := List.mem_map.mp (List.mem_filter.mp hmem).1
  exact Cell.reentered_reentered _

/-- What undoing a swap leaves before it deletes a row: of the two rows, those that are restorable were
entered again, and every other row shows what the swap put there. -/
structure SwapPutBack (limit : Option Nat) (old cells : Cells) (a b : Nat) : Prop where
  restored : ∀ row, (row = a ∨ row = b) ∧ old.Restorable limit row →
    ∀ col, cells.getAt row col = (old.getAt row col).reentered
  swapped : ∀ row, ¬((row = a ∨ row = b) ∧ old.Restorable limit row) →
    ∀ col, cells.getAt row col = old.getAt (Equiv.swap a b row) col

section

variable {limit : Option Nat} {old swapped : Cells} {s : Sheet} {a b k : Nat}

/-- A cell in use is among the contents of its row. -/
theorem mem_rowContents {row : Nat → Cell} {col : Nat} (hcol : 1 ≤ col ∧ col ≤ maxColumns)
    (hused : row col ≠ .blank) : row col ∈ rowContents row := by
  refine List.mem_filter.mpr ⟨List.mem_map_of_mem (List.mem_range'_1.mpr (by omega)), ?_⟩
  simpa using fun h => hused (Cell.isBlank_iff.mp h)

namespace SwapPutBack

/-- The other rows are what they were. -/
theorem getAt_of_other (h : SwapPutBack limit old s.cells a b) {row : Nat} (ha : row ≠ a)
    (hb : row ≠ b) : s.cells.getAt row = old.getAt row := by
  funext col
  rw [h.swapped row (fun hin => hin.1.elim ha hb), Equiv.swap_apply_of_ne_of_ne ha hb]

/-- If both rows come back with all their cells, everything is as it was before the swap. -/
theorem eq_old (h : SwapPutBack limit old s.cells a b)
    (hboth : ∀ row, row = a ∨ row = b → old.Restorable limit row ∧ old.RowTyped row) :
    s.cells = old := by
  refine Cells.ext_getAt fun row col _ _ => ?_
  by_cases hrow : row = a ∨ row = b
  · obtain ⟨hrestorable, htyped⟩ := hboth row hrow
    rw [h.restored row ⟨hrow, hrestorable⟩, htyped col]
  · rw [not_or] at hrow
    rw [h.getAt_of_other hrow.1 hrow.2]

/-- If neither row comes back, everything is as it was after the swap. -/
theorem eq_swapped (h : SwapPutBack limit old s.cells a b)
    (hswapped : ∀ row col, swapped.getAt row col = old.getAt (Equiv.swap a b row) col)
    (hneither : ∀ row, row = a ∨ row = b → ¬old.Restorable limit row) : s.cells = swapped := by
  refine Cells.ext_getAt fun row col _ _ => ?_
  rw [hswapped, h.swapped row fun hin => hneither row hin.1 hin.2]

/-- A cell that no user could have typed is lost when its row is put back. -/
theorem count_lt (h : SwapPutBack limit old s.cells a b)
    (ha : 1 ≤ a ∧ a ≤ maxRows) (hb : 1 ≤ b ∧ b ≤ maxRows)
    (hboth : ∀ row, row = a ∨ row = b → old.Restorable limit row) {row col : Nat}
    (hrow : row = a ∨ row = b) (hcell : (old.getAt row col).reentered ≠ old.getAt row col) :
    s.cells.contents.count (old.getAt row col) < old.contents.count (old.getAt row col) := by
  have hin : 1 ≤ row ∧ row ≤ maxRows := by rcases hrow with rfl | rfl <;> assumption
  have hused : old.getAt row col ≠ .blank := by
    intro hblank
    rw [hblank] at hcell
    exact hcell Cell.reentered_blank
  have hcol : 1 ≤ col ∧ col ≤ maxColumns := by
    by_contra hout
    exact hused (Cells.getAt_of_not_within _ fun hwithin => hout hwithin.2)
  -- no row that was entered again has such a cell, and the other rows have as many as before
  have hput : ∀ r, r = a ∨ r = b →
      (rowContents (s.cells.getAt r)).count (old.getAt row col) = 0 := by
    intro r hr
    rw [show s.cells.getAt r = fun col => (old.getAt r col).reentered from
      funext (h.restored r ⟨hr, hboth r hr⟩)]
    exact count_rowContents_reentered hcell (old.getAt r)
  refine Cells.countP_contents_lt hin (fun r => ?_) ?_
  · by_cases hr : r = a ∨ r = b
    · exact (hput r hr).le.trans (Nat.zero_le _)
    · rw [not_or] at hr
      rw [h.getAt_of_other hr.1 hr.2]
  · exact (hput row hrow).trans_lt (List.count_pos_iff.mpr (mem_rowContents hcol hused))

/-- If only one of the two rows is put back, it is the one with fewer used cells, and the other one is
lost. -/
theorem length_lt (h : SwapPutBack limit old s.cells a b)
    (ha : 1 ≤ a ∧ a ≤ maxRows) (hb : 1 ≤ b ∧ b ≤ maxRows)
    (hswapped : ∀ row col, swapped.getAt row col = old.getAt (Equiv.swap a b row) col)
    {row : Nat} (hrow : row = a ∨ row = b) (hone : old.Restorable limit row)
    (hother : ¬old.Restorable limit (Equiv.swap a b row)) :
    s.cells.contents.length < swapped.contents.length := by
  have hin : 1 ≤ row ∧ row ≤ maxRows := by rcases hrow with rfl | rfl <;> assumption
  have hfewer : (rowContents (s.cells.getAt row)).length <
      (rowContents (swapped.getAt row)).length := by
    obtain ⟨n, hn, hle⟩ := hone
    have hgt : n < (rowContents (old.getAt (Equiv.swap a b row))).length := by
      by_contra hle
      exact hother ⟨n, hn, by omega⟩
    rw [show s.cells.getAt row = fun col => (old.getAt row col).reentered from
        funext (h.restored row ⟨hrow, n, hn, hle⟩),
      show swapped.getAt row = old.getAt (Equiv.swap a b row) from funext (hswapped row)]
    exact (length_rowContents_reentered_le _).trans_lt (hle.trans_lt hgt)
  have hlt := Cells.countP_contents_lt (P := fun _ => true) (a := s.cells) (b := swapped) hin
    (fun r => ?_) (by simpa using hfewer)
  · simpa using hlt
  · by_cases hr : r = row
    · subst hr
      simpa using hfewer.le
    · have hleft : ¬((r = a ∨ r = b) ∧ old.Restorable limit r) := by
        rintro ⟨hr', hrestorable⟩
        refine hother ?_
        rcases hrow with rfl | rfl <;> rcases hr' with rfl | rfl
        · exact absurd rfl hr
        · rwa [Equiv.swap_apply_left]
        · rwa [Equiv.swap_apply_right]
        · exact absurd rfl hr
      rw [show s.cells.getAt r = swapped.getAt r from
        funext fun col => (h.swapped r hleft col).trans (hswapped r col).symm]

end SwapPutBack

/-- After a swap was put back as far as possible and row `k` was deleted, nothing is missed exactly if
row `k` was blank and either none of the two rows was put back or both were, with all their cells. -/
theorem keptIn_putBack_iff (h : SwapPutBack limit old s.cells a b)
    (ha : 1 ≤ a ∧ a ≤ maxRows) (hb : 1 ≤ b ∧ b ≤ maxRows) (hk : 1 ≤ k ∧ k ≤ maxRows)
    (hka : k ≠ a) (hkb : k ≠ b)
    (hswapped : ∀ row col, swapped.getAt row col = old.getAt (Equiv.swap a b row) col) :
    old.KeptIn (s.deleteRow hk).cells ↔
      old.RowBlank k ∧ ((¬old.Restorable limit a ∧ ¬old.Restorable limit b) ∨
        (old.Restorable limit a ∧ old.Restorable limit b) ∧ old.RowTyped a ∧ old.RowTyped b) := by
  have hperm := Cells.contents_perm_of_swap ha hb hswapped
  have hlost : s.cells.contents.length < swapped.contents.length →
      ¬old.KeptIn (s.deleteRow hk).cells := by
    intro hlt
    rw [hperm.length_eq] at hlt
    exact Sheet.not_keptIn_deleteRow (P := fun _ => true) hk (by simpa using hlt)
  have hblank : s.cells.RowBlank k ↔ old.RowBlank k := by
    rw [Cells.RowBlank, Cells.RowBlank, h.getAt_of_other hka hkb]
  -- the rows come back or stay away one by one, as each has few enough cells or not
  by_cases hra : old.Restorable limit a <;> by_cases hrb : old.Restorable limit b
  · by_cases htyped : old.RowTyped a ∧ old.RowTyped b
    · have hcells : s.cells = old := h.eq_old (by
        rintro row (rfl | rfl)
        · exact ⟨hra, htyped.1⟩
        · exact ⟨hrb, htyped.2⟩)
      rw [Sheet.keptIn_deleteRow_iff hk (by rw [hcells]), hblank]
      simp [hra, hrb, htyped]
    · obtain ⟨row, hrow, col, hcell⟩ : ∃ row, (row = a ∨ row = b) ∧
          ∃ col, (old.getAt row col).reentered ≠ old.getAt row col := by
        rw [not_and_or, Cells.RowTyped, Cells.RowTyped, not_forall, not_forall] at htyped
        rcases htyped with htyped | htyped
        · exact ⟨a, Or.inl rfl, htyped⟩
        · exact ⟨b, Or.inr rfl, htyped⟩
      have hlt := h.count_lt ha hb (by rintro row (rfl | rfl) <;> assumption) hrow hcell
      simp [Sheet.not_keptIn_deleteRow hk hlt, hra, hrb, htyped]
  · have hlt := h.length_lt ha hb hswapped (Or.inl rfl) hra (by rwa [Equiv.swap_apply_left])
    simp [hlost hlt, hra, hrb]
  · have hlt := h.length_lt ha hb hswapped (Or.inr rfl) hrb (by rwa [Equiv.swap_apply_right])
    simp [hlost hlt, hra, hrb]
  · have hcells : s.cells = swapped :=
      h.eq_swapped hswapped (by rintro row (rfl | rfl) <;> assumption)
    rw [Sheet.keptIn_deleteRow_iff hk (by rw [hcells]; exact hperm.symm), hblank]
    simp [hra, hrb]

end

/-! ## Running the inverse of a macro -/

theorem Cells.restorable_congr {limit : Option Nat} {a b : Cells} {r : Nat}
    (h : a.getAt r = b.getAt r) : a.Restorable limit r ↔ b.Restorable limit r := by
  rw [Restorable, Restorable, h]

namespace RowMacro

variable (limit : Option Nat) {w : Workbook} {s t : Sheet} {a b r scratch : Nat}

/-- The inverse of an insertion and of a copy onto the new row deletes the row with that number. -/
theorem runsThrough_undoInsert (ht : w.activeSheet? = some t) (hr : 1 ≤ r ∧ r ≤ maxRows)
    (old : Cells) :
    ∃ inverse, RunsThrough Workbook.host limit
      (copyInverse limit ⟨none, wholeRow r⟩ (old.placedRow hr) ++ [.plain .deleteRows [wholeRow r]])
      w inverse (w.withSheet w.activeIndex (t.deleteRow hr)) := by
  obtain ⟨inverse, t', hcopy, hput, hleft⟩ := runsThrough_copyInverse limit ht hr old
  have hdelete := Command.runs_deleteRow limit (Workbook.activeSheet?_withSheet ht t') hr
    (Command.wireForm (.verb .deleteRows) [wholeRow r])
  -- whether the row was put back or not, it is deleted
  have hsame : t'.deleteRow hr = t.deleteRow hr := by
    by_cases hold : old.Restorable limit r
    · rw [hput hold, Sheet.deleteRow_restoreRow]
    · rw [hleft hold]
  simp only [Workbook.activeIndex_withSheet, Workbook.withSheet_withSheet, hsame] at hdelete
  exact ⟨_, hcopy.append (.single hdelete)⟩

/-- The inverse of a swap puts its two rows back as far as possible and then deletes the row with the
number of the scratch row. -/
theorem runsThrough_undoSwap (ha : 1 ≤ a ∧ a ≤ maxRows) (hb : 1 ≤ b ∧ b ≤ maxRows)
    (hr : 1 ≤ scratch ∧ scratch ≤ maxRows) (hscratch : scratch = max a b + 1)
    (hlast : s.LastRowFree) (hs : w.activeSheet? = some (s.swapBy ha hb hr)) :
    ∃ (inverse : List Command) (t : Sheet), RunsThrough Workbook.host limit
        (copyInverse limit ⟨none, wholeRow b⟩
            ((((s.insertRow hr).copyRow ha hr).copyRow hb ha).cells.placedRow hb) ++
          (copyInverse limit ⟨none, wholeRow a⟩
              (((s.insertRow hr).copyRow ha hr).cells.placedRow ha) ++
            (copyInverse limit ⟨none, wholeRow scratch⟩ ((s.insertRow hr).cells.placedRow hr) ++
              [.plain .deleteRows [wholeRow scratch]])))
        w inverse (w.withSheet w.activeIndex (t.deleteRow hr)) ∧
      SwapPutBack limit s.cells t.cells a b := by
  have hsaved : ∀ {row}, row < scratch →
      ((s.insertRow hr).copyRow ha hr).cells.getAt row = s.cells.getAt row := by
    intro row hrow
    funext col
    rw [Sheet.getAt_copyRow, if_neg (by omega), Sheet.getAt_insertRow s hr (by omega), if_pos hrow]
  have holdA := hsaved (show a < scratch by omega)
  have holdB : (((s.insertRow hr).copyRow ha hr).copyRow hb ha).cells.getAt b = s.cells.getAt b := by
    rw [← hsaved (show b < scratch by omega)]
    funext col
    rw [Sheet.getAt_copyRow, ite_self]
  obtain ⟨inverse, t₁, hrun₁, hput₁, hleft₁⟩ := runsThrough_copyInverse limit hs hb
    (((s.insertRow hr).copyRow ha hr).copyRow hb ha).cells
  have hs₁ := Workbook.activeSheet?_withSheet hs t₁
  obtain ⟨inverse', t₂, hrun₂, hput₂, hleft₂⟩ := runsThrough_copyInverse limit hs₁ ha
    ((s.insertRow hr).copyRow ha hr).cells
  have hs₂ := Workbook.activeSheet?_withSheet hs t₂
  obtain ⟨inverse'', hrun₃⟩ := runsThrough_undoInsert limit hs₂ hr (s.insertRow hr).cells
  simp only [Workbook.activeIndex_withSheet, Workbook.withSheet_withSheet] at hrun₂ hrun₃
  refine ⟨_, t₂, hrun₁.append (hrun₂.append hrun₃), ?_⟩
  -- row `b` is put back first, then row `a`, so row `a` counts if they are one row
  rw [Cells.restorable_congr holdB] at hput₁ hleft₁
  rw [Cells.restorable_congr holdA] at hput₂ hleft₂
  constructor
  · rintro row ⟨hrow, hrestorable⟩ col
    by_cases hrowA : row = a
    · subst hrowA
      rw [hput₂ hrestorable, Sheet.getAt_restoreRow, if_pos rfl, congrFun holdA col]
    · obtain rfl := hrow.resolve_left hrowA
      have ht₁ : t₁.cells.getAt row col = (s.cells.getAt row col).reentered := by
        rw [hput₁ hrestorable, Sheet.getAt_restoreRow, if_pos rfl, congrFun holdB col]
      by_cases hra : s.cells.Restorable limit a
      · rw [hput₂ hra, Sheet.getAt_restoreRow, if_neg hrowA, ht₁]
      · rw [hleft₂ hra, ht₁]
  · intro row hrow col
    have ht₁ : t₁.cells.getAt row col = (s.swapBy ha hb hr).cells.getAt row col := by
      by_cases hrb : s.cells.Restorable limit b
      · rw [hput₁ hrb, Sheet.getAt_restoreRow, if_neg fun h => hrow ⟨Or.inr h, h ▸ hrb⟩]
      · rw [hleft₁ hrb]
    have ht₂ : t₂.cells.getAt row col = t₁.cells.getAt row col := by
      by_cases hra : s.cells.Restorable limit a
      · rw [hput₂ hra, Sheet.getAt_restoreRow, if_neg fun h => hrow ⟨Or.inl h, h ▸ hra⟩]
      · rw [hleft₂ hra]
    rw [ht₂, ht₁, Sheet.getAt_swapBy ha hb hr hscratch hlast]

end RowMacro

/-! ## A turn and an undo right after it -/

/-- When undoing a macro on the rows `a` and `b` loses nothing. -/
def RowMacro.UndoKeeps (limit : Option Nat) (cells : Cells) (after : Bool) (a b : Nat) :
    Verb → Prop
  | .moveRow => cells.RowBlank (if a < insertionRow b after then insertionRow b after else a)
  | _ =>
    cells.RowBlank (max a b + 1) ∧ ((¬cells.Restorable limit a ∧ ¬cells.Restorable limit b) ∨
      (cells.Restorable limit a ∧ cells.Restorable limit b) ∧ cells.RowTyped a ∧ cells.RowTyped b)

namespace Editor

variable (ed : Editor) {w w₁ w₂ : Workbook} {s : Sheet} {text : String}

/-- A turn with the reply `text` and an undo right after it both succeed and lead from `w` to `w₂`. -/
def TurnUndone (text : String) (w w₂ : Workbook) : Prop :=
  ∃ turn ed₁ w₁ outcome ed₂, ed.runTurn Workbook.host text w = .ok (turn, ed₁, w₁) ∧
    ed₁.undo Workbook.host w₁ = .ok (outcome, ed₂, w₂) ∧
    turn.isClean = true ∧ outcome.success = true

/-- A turn whose batch runs through is undone by the batch that was recorded for it. -/
theorem turnUndone_of_runsThrough {cs inverse inverse' : List Command}
    (hdepth : 1 ≤ ed.history.depth) (hparse : (Reply.parse text).commands = cs)
    (hcs : cs ≠ []) (hinverse : inverse ≠ [])
    (hrun : RunsThrough Workbook.host ed.copyLimit cs w inverse w₁)
    (hundo : RunsThrough Workbook.host ed.copyLimit inverse w₁ inverse' w₂) :
    ed.TurnUndone text w w₂ := by
  have hready : (Turn.preview text).isRunnable = true := by
    have hissues : issues cs = [] := by
      rw [issues, if_neg (by simp [isLoneUndo_of_runsThrough hrun]), issuesFrom_of_runsThrough hrun]
    rw [Turn.preview, Turn.isRunnable, Turn.verdict, hparse, if_neg hcs, hissues]
    rfl
  have hbatch : (Turn.preview text).commands = cs := hparse
  obtain ⟨history, hpop, -⟩ := History.pop?_of_suffix
    (History.suffix_push (List.nil_suffix (l := ed.history.batches)) hdepth hinverse)
  refine ⟨{ Turn.preview text with status := .executed { executed := cs.length } },
    { ed with history := ed.history.push inverse }, w₁, { executed := inverse.length },
    { ed with history }, ?_, ?_, rfl, rfl⟩
  · simp only [runTurn, if_pos hready, hbatch, ed.execute_of_runsThrough hrun]
    rfl
  · rw [undo, hpop]
    simp only [runBatch_of_runsThrough hundo]
    rfl

section

variable {first second label : String} {rest : List String} {a b : Nat}
  (hdepth : 1 ≤ ed.history.depth) (hs : w.activeSheet? = some s) (hlast : s.LastRowFree)
  (hfirst : RowMacro.rowNumber? first = some a) (hsecond : RowMacro.rowNumber? second = some b)

include hdepth hs hlast hfirst hsecond

/-- Undoing a move deletes the row that the move has left at the place of insertion. -/
theorem keptIn_undo_moveRow_iff
    (hparse : (Reply.parse text).commands =
      expand (.verb .moveRow) (first :: second :: rest) label)
    (hok : ∀ c ∈ (Reply.parse text).commands, c.kind ≠ .failed) :
    ∃ t, ed.TurnUndone text w (w.withSheet w.activeIndex t) ∧
      (s.cells.KeptIn t.cells ↔
        RowMacro.UndoKeeps ed.copyLimit s.cells (RowMacro.goesAfter rest.head?) a b .moveRow) := by
  have ha := RowMacro.rowNumber?_mem hfirst
  have hb := RowMacro.rowNumber?_mem hsecond
  rw [hparse] at hok
  obtain ⟨cs, hcs, heq⟩ := RowMacro.expand_moveRow hfirst hsecond hok
  obtain ⟨hinsert, hpushed, l₁, l₂, l₃, rfl⟩ := RowMacro.moveRow?_eq_some ha.2 hb.2 hcs
  have hi : 1 ≤ insertionRow b (RowMacro.goesAfter rest.head?) ∧
      insertionRow b (RowMacro.goesAfter rest.head?) ≤ maxRows :=
    ⟨one_le_insertionRow hb.1, hinsert⟩
  have hp : 1 ≤ pushedRow a (insertionRow b (RowMacro.goesAfter rest.head?)) ∧
      pushedRow a (insertionRow b (RowMacro.goesAfter rest.head?)) ≤ maxRows :=
    ⟨one_le_pushedRow ha.1, hpushed⟩
  have hs₁ := Workbook.activeSheet?_withSheet hs (s.moveInto hi hp)
  obtain ⟨inverse, hundo⟩ :=
    RowMacro.runsThrough_undoInsert ed.copyLimit hs₁ hi (s.insertRow hi).cells
  simp only [Workbook.activeIndex_withSheet, Workbook.withSheet_withSheet] at hundo
  refine ⟨_, ed.turnUndone_of_runsThrough hdepth (hparse.trans heq) (by simp) (by simp)
    (RowMacro.runsThrough_move hs hi hp l₁ l₂ l₃) hundo, ?_⟩
  rw [Sheet.keptIn_deleteRow_iff hi (Sheet.contents_moveInto ha hb hi hp hlast).symm,
    RowMacro.UndoKeeps, Cells.RowBlank, Cells.RowBlank]
  simp only [Sheet.getAt_moveInto hi hp hlast hi.2, shownRow_insertAt]

/-- Undoing a swap puts its rows back as far as possible and deletes the row behind them. -/
theorem keptIn_undo_swapRows_iff
    (hparse : (Reply.parse text).commands =
      expand (.verb .swapRows) (first :: second :: rest) label)
    (hok : ∀ c ∈ (Reply.parse text).commands, c.kind ≠ .failed) :
    ∃ t, ed.TurnUndone text w (w.withSheet w.activeIndex t) ∧
      (s.cells.KeptIn t.cells ↔
        RowMacro.UndoKeeps ed.copyLimit s.cells (RowMacro.goesAfter rest.head?) a b .swapRows) := by
  have ha := RowMacro.rowNumber?_mem hfirst
  have hb := RowMacro.rowNumber?_mem hsecond
  rw [hparse] at hok
  obtain ⟨cs, hcs, heq⟩ := RowMacro.expand_swapRows hfirst hsecond hok
  obtain ⟨hscratch, l₁, l₂, l₃, l₄, l₅, rfl⟩ := RowMacro.swapRows?_eq_some hcs
  have hr : 1 ≤ max a b + 1 ∧ max a b + 1 ≤ maxRows := ⟨by omega, hscratch⟩
  have hs₁ := Workbook.activeSheet?_withSheet hs (s.swapBy ha hb hr)
  obtain ⟨inverse, t, hundo, hput⟩ :=
    RowMacro.runsThrough_undoSwap ed.copyLimit ha hb hr rfl hlast hs₁
  simp only [Workbook.activeIndex_withSheet, Workbook.withSheet_withSheet] at hundo
  refine ⟨_, ed.turnUndone_of_runsThrough hdepth (hparse.trans heq) (by simp) (by simp)
    (RowMacro.runsThrough_swap hs ha hb hr l₁ l₂ l₃ l₄ l₅) hundo, ?_⟩
  exact keptIn_putBack_iff hput ha hb hr (by omega) (by omega)
    (Sheet.getAt_swapBy ha hb hr rfl hlast)

end

/-- Undoing a row macro right after its turn goes through, but it keeps every cell of the active sheet
only under the condition that `RowMacro.UndoKeeps` states. -/
theorem keptIn_undo_rowMacro_iff {verb : Verb} {first second label : String} {rest : List String}
    {a b : Nat} (hdepth : 1 ≤ ed.history.depth) (hs : w.activeSheet? = some s)
    (hlast : s.LastRowFree) (hverb : verb = .moveRow ∨ verb = .swapRows)
    (hfirst : RowMacro.rowNumber? first = some a) (hsecond : RowMacro.rowNumber? second = some b)
    (hparse : (Reply.parse text).commands = expand (.verb verb) (first :: second :: rest) label)
    (hok : ∀ c ∈ (Reply.parse text).commands, c.kind ≠ .failed) :
    ∃ turn ed₁ w₁ outcome ed₂ t, ed.runTurn Workbook.host text w = .ok (turn, ed₁, w₁) ∧
      ed₁.undo Workbook.host w₁ = .ok (outcome, ed₂, w.withSheet w.activeIndex t) ∧
      turn.isClean = true ∧ outcome.success = true ∧
      (s.cells.KeptIn t.cells ↔
        RowMacro.UndoKeeps ed.copyLimit s.cells (RowMacro.goesAfter rest.head?) a b verb) := by
  obtain ⟨t, ⟨turn, ed₁, w₁, outcome, ed₂, hturn, hundo, hclean, hsuccess⟩, hkept⟩ :
      ∃ t, ed.TurnUndone text w (w.withSheet w.activeIndex t) ∧
        (s.cells.KeptIn t.cells ↔
          RowMacro.UndoKeeps ed.copyLimit s.cells (RowMacro.goesAfter rest.head?) a b verb) := by
    rcases hverb with rfl | rfl
    · exact ed.keptIn_undo_moveRow_iff hdepth hs hlast hfirst hsecond hparse hok
    · exact ed.keptIn_undo_swapRows_iff hdepth hs hlast hfirst hsecond hparse hok
  exact ⟨turn, ed₁, w₁, outcome, ed₂, t, hturn, hundo, hclean, hsuccess, hkept⟩

/-- A swap of two rows without a limit for copies, and its undo. -/
theorem keptIn_undo_rowMacro_iff_threeRows :
    ∃ turn ed₁ w₁ outcome ed₂ t,
      runTurn {} Workbook.host "SWAP_ROWS|1|3" .threeRows = .ok (turn, ed₁, w₁) ∧
      ed₁.undo Workbook.host w₁ = .ok (outcome, ed₂, Workbook.threeRows.withSheet 0 t) ∧
      turn.isClean = true ∧ outcome.success = true ∧
      (Sheet.threeRows.cells.KeptIn t.cells ↔
        RowMacro.UndoKeeps none Sheet.threeRows.cells true 1 3 .swapRows) :=
  have hfirst : RowMacro.rowNumber? "1" = some 1 := by decide
  have hsecond : RowMacro.rowNumber? "3" = some 3 := by decide
  have hparse : (Reply.parse "SWAP_ROWS|1|3").commands =
      expand (.verb .swapRows) ["1", "3"] "SWAP_ROWS|1|3" := by decide +kernel
  keptIn_undo_rowMacro_iff {} (by decide) rfl (by decide +kernel) (Or.inr rfl) hfirst hsecond
    hparse (by decide +kernel)

/-- A row that the macro had nothing to do with can be lost. -/
theorem not_keptIn_undo_threeRows :
    ((runTurn {} Workbook.host "MOVE_ROW|1|2" .threeRows).bind fun (_, ed, w) =>
        ed.undo Workbook.host w).map (fun r => (r.1.success, r.2.2)) =
      .ok (true, Workbook.threeRows.withSheet 0 (.ofColumn ["b", "a"])) ∧
    ¬Sheet.threeRows.cells.KeptIn (Sheet.ofColumn ["b", "a"]).cells := by
  refine ⟨by decide +kernel, fun h => ?_⟩
  exact absurd (h { value := "c" }) (by decide +kernel)

end Editor

end SheetScript
