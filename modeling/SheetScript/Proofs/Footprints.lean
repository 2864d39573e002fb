import SheetScript.Proofs.Changes
import SheetScript.Proofs.Landing
import SheetScript.Proofs.SortedRows

/-!
# The reach of an operation

An operation that succeeds has changed nothing but what it is about: cells in a block of one sheet, cells
from a line of the active sheet on, the charts of the active sheet, one sheet as a whole, the selection,
or which sheet is active.

- `Sheet.SameOutside`, `Workbook.CellsWithin`, `Workbook.ChartsWithin`: two sheets or workbooks that
  differ in one respect at most.
- `Operation.StaysWithin`: what each operation may change.
- `ask_of_run`, `act_of_run`, `actWith_of_run`: what is known about the calls of a step that succeeded.
- `cellsWithin_changeAt`, `cellsWithin_changeActive`: changing a sheet by a function that respects an
  area.
- `Operation.perform_staysWithin`: every operation stays within its reach.
-/

namespace SheetScript

open Grid

/-! ## Places an operation can reach -/

namespace Grid

/-- The number of the row of a position, or that of its column. -/
def Position.line (p : Position) : Axis → Nat
  | .rows => p.row
  | .columns => p.col

/-- Whether a position lies in the rectangle of the size of `b` whose first cell is `corner`. -/
def Block.CoversFrom (b : Block) (corner p : Position) : Prop :=
  (corner.row ≤ p.row ∧ p.row < corner.row + b.height) ∧
    (corner.col ≤ p.col ∧ p.col < corner.col + b.width)

/-- Cutting a block off at the edges of the grid takes no position away from it. -/
theorem Block.contains_moveTo_iff {b : Block} {corner p : Position} :
    (b.moveTo corner).contains p = true ↔ b.CoversFrom corner p := by
  have hrow := p.row_mem
  have hcol := p.col_mem
  rw [contains_iff, CoversFrom]
  simp only [moveTo, height, width]
  omega

end Grid

/-! ## What stays the same -/

/-- `t` is `s` but for cells within an area. -/
structure Sheet.SameOutside (area : Position → Prop) (s t : Sheet) : Prop where
  name : t.name = s.name
  charts : t.charts = s.charts
  cells : ∀ p, ¬area p → t.cells.get p = s.cells.get p

namespace Workbook

/-- `w'` is `w` but for cells within an area of the sheet with the index `i`. -/
def CellsWithin (w : Workbook) (i : Nat) (area : Position → Prop) (w' : Workbook) : Prop :=
  ∃ s t, w.sheets[i]? = some s ∧ s.SameOutside area t ∧ w' = w.withSheet i t

/-- `w'` is `w` but for the charts of the active sheet. -/
def ChartsWithin (w w' : Workbook) : Prop :=
  ∃ s charts, w.activeSheet? = some s ∧ w' = w.withSheet w.activeIndex { s with charts }

end Workbook

/-- What an operation may make of a workbook `w`. -/
def Operation.StaysWithin (w w' : Workbook) : Operation → Prop
  | setValue a _ | setFormula a _ | formatBold a _ | formatColor a _ | formatFill a _ | clear a
  | sort a _ _ =>
    ∃ i b, w.resolve a = .ok (i, b) ∧ w.CellsWithin i (fun p => b.contains p = true) w'
  | copy source target =>
    ∃ i b j b', w.resolve source = .ok (i, b) ∧ w.resolve target = .ok (j, b') ∧
      w.CellsWithin j (b.CoversFrom b'.topLeft) w'
  | insertLines lines | deleteLines lines =>
    w.CellsWithin w.activeIndex (fun p => lines.first ≤ p.line lines.axis) w'
  | createSheet name => w' = w ∨ w' = { w with sheets := w.sheets ++ [{ name }] }
  | deleteSheet name =>
    ∃ i active, w.sheetIndex? name = some i ∧ w' = { w with sheets := w.sheets.eraseIdx i, active }
  | renameSheet old new =>
    ∃ stored i s, w.sheetName old = .ok stored ∧ w.sheetIndex? stored = some i ∧
      w.sheets[i]? = some s ∧ w' = w.withSheet i { s with name := new }
  | createChart _ _ _ | deleteChart _ | deleteAllCharts => w.ChartsWithin w'
  | activateSheet name => ∃ i, w.sheetIndex? name = some i ∧ w' = { w with active := i }
  | select a => w' = { w with selection := some a }

/-! ## Changes of one sheet -/

namespace Sheet

variable {s : Sheet} {lines : Span} {p : Position}

/-- A write changes cells of its block only. -/
theorem sameOutside_write {b : Block} {f : Cell → Cell} {t : Sheet} (h : s.writeBlock? b f = some t) :
    s.SameOutside (fun p => b.contains p = true) t := by
  rw [writeBlock?, Option.ite_none_right_eq_some, Option.some.injEq] at h
  obtain ⟨-, rfl⟩ := h
  refine ⟨rfl, rfl, fun p hp => ?_⟩
  show (s.cells.update b.positions f).get p = s.cells.get p
  rw [Cells.get_update_block, if_neg hp]

theorem sameOutside_clearBlock (s : Sheet) (b : Block) :
    s.SameOutside (fun p => b.contains p = true) (s.clearBlock b) := by
  refine ⟨rfl, rfl, fun p hp => ?_⟩
  show (s.cells.keep fun p => !b.contains p).get p = s.cells.get p
  rw [Cells.get_keep, if_pos (by simpa using hp)]

/-- A copy changes cells only where the block comes to lie. -/
theorem sameOutside_pasteBlock (s : Sheet) (b : Block) (origin : Cells) (corner : Position) :
    s.SameOutside (b.CoversFrom corner) (s.pasteBlock b origin corner) := by
  refine ⟨rfl, rfl, fun p hp => ?_⟩
  rw [get_pasteBlock, if_neg]
  rwa [Block.contains_moveTo_iff]

/-- A cell before inserted lines stays. -/
theorem insertedAt_of_lt (h : p.line lines.axis < lines.first) : insertedAt lines p = some p := by
  unfold insertedAt
  unfold Position.line at h
  cases haxis : lines.axis <;> rw [haxis] at h <;> exact if_pos h

theorem deletedAt_of_lt (h : p.line lines.axis < lines.first) : deletedAt lines p = some p :=
  deletedAt_eq_some_iff.mpr (insertedAt_of_lt h)

/-- An insertion changes cells only from the first inserted line on. -/
theorem sameOutside_insertLines (s : Sheet) (lines : Span) :
    s.SameOutside (fun p => lines.first ≤ p.line lines.axis) (s.insertLines lines) := by
  refine ⟨rfl, rfl, fun p hp => ?_⟩
  rw [get_insertLines, deletedAt_of_lt (Nat.lt_of_not_le hp)]
  rfl

/-- A deletion changes cells only from the first deleted line on. -/
theorem sameOutside_deleteLines (s : Sheet) (lines : Span) :
    s.SameOutside (fun p => lines.first ≤ p.line lines.axis) (s.deleteLines lines) := by
  refine ⟨rfl, rfl, fun p hp => ?_⟩
  rw [get_deleteLines, insertedAt_of_lt (Nat.lt_of_not_le hp)]
  rfl

end Sheet

/-! ## Changes of a workbook that succeed -/

namespace Workbook

variable {w w' : Workbook} {a : Address} {area : Position → Prop}

/-- A call that changes a block of a sheet stays within the block that its address is resolved to. -/
theorem cellsWithin_changeAt {f : Sheet → Block → Except Failure Sheet}
    (h : w.changeAt a f = .ok w')
    (hf : ∀ s b t, f s b = .ok t → s.SameOutside (fun p => b.contains p = true) t) :
    ∃ i b, w.resolve a = .ok (i, b) ∧ w.CellsWithin i (fun p => b.contains p = true) w' := by
  obtain ⟨⟨i, b⟩, hresolve, h⟩ := bind_eq_ok h
  obtain ⟨s, hs, h⟩ := bind_eq_ok h
  obtain ⟨t, ht, h⟩ := bind_eq_ok h
  cases h
  exact ⟨i, b, orFail_eq_ok_iff.mp hresolve, s, t, sheetAt_eq_ok_iff.mp hs, hf s b t ht, rfl⟩

/-- A call that changes the active sheet finds one and puts it back. -/
theorem exists_of_changeActive {f : Sheet → Except Failure Sheet} (h : w.changeActive f = .ok w') :
    ∃ s t, w.activeSheet? = some s ∧ f s = .ok t ∧ w' = w.withSheet w.activeIndex t := by
  obtain ⟨s, hs, h⟩ := bind_eq_ok h
  obtain ⟨t, ht, h⟩ := bind_eq_ok h
  cases h
  exact ⟨s, t, sheetAt_eq_ok_iff.mp hs, ht, rfl⟩

theorem cellsWithin_changeActive {f : Sheet → Except Failure Sheet} (h : w.changeActive f = .ok w')
    (hf : ∀ s t, f s = .ok t → s.SameOutside area t) : w.CellsWithin w.activeIndex area w' := by
  obtain ⟨s, t, hs, ht, rfl⟩ := exists_of_changeActive h
  exact ⟨s, t, hs, hf s t ht, rfl⟩

theorem cellsWithin_write {f : Cell → Cell} (h : w.write a f = .ok w') :
    ∃ i b, w.resolve a = .ok (i, b) ∧ w.CellsWithin i (fun p => b.contains p = true) w' := by
  refine cellsWithin_changeAt h fun s b t ht => ?_
  cases hwrite : s.writeBlock? b f with
  | none =>
    rw [hwrite] at ht
    cases ht
  | some u =>
    rw [hwrite] at ht
    cases ht
    exact Sheet.sameOutside_write hwrite

theorem cellsWithin_clear (h : w.clear a = .ok w') :
    ∃ i b, w.resolve a = .ok (i, b) ∧ w.CellsWithin i (fun p => b.contains p = true) w' := by
  refine cellsWithin_changeAt h fun s b t ht => ?_
  cases ht
  exact s.sameOutside_clearBlock b

/-- A sort stays within its block: the rows it moves all find places there. -/
theorem cellsWithin_sort {key : Nat} {ascending : Bool} (h : w.sort a key ascending = .ok w') :
    ∃ i b, w.resolve a = .ok (i, b) ∧ w.CellsWithin i (fun p => b.contains p = true) w' := by
  refine cellsWithin_changeAt h fun s b t ht => ?_
  by_cases hkey : key < b.width
  · rw [if_pos hkey] at ht
    dsimp only at ht
    cases hsort : s.cells.sortRows? (s.areaToSort a.reference b (b.left + key)) (b.left + key)
        ascending with
    | none =>
      rw [hsort] at ht
      cases ht
    | some cells =>
      rw [hsort] at ht
      cases ht
      obtain ⟨sorted, hlists, rfl, -⟩ := Sheet.sortRows?_eq_some hsort
      exact ⟨rfl, rfl, fun p hp => Cells.get_moveRows_of_not_contains hlists (by simpa using hp)⟩
  · rw [if_neg hkey] at ht
    cases ht

/-- A copy stays where the source comes to lie, on the sheet of the target. -/
theorem cellsWithin_copy {source target : Address} (h : w.copy source target = .ok w') :
    ∃ i b j b', w.resolve source = .ok (i, b) ∧ w.resolve target = .ok (j, b') ∧
      w.CellsWithin j (b.CoversFrom b'.topLeft) w' := by
  obtain ⟨⟨i, b⟩, hsource, h⟩ := bind_eq_ok h
  obtain ⟨⟨j, b'⟩, htarget, h⟩ := bind_eq_ok h
  obtain ⟨s, -, h⟩ := bind_eq_ok h
  obtain ⟨t, ht, h⟩ := bind_eq_ok h
  cases h
  exact ⟨i, b, j, b', orFail_eq_ok_iff.mp hsource, orFail_eq_ok_iff.mp htarget, t, _,
    sheetAt_eq_ok_iff.mp ht, t.sameOutside_pasteBlock b s.cells b'.topLeft, rfl⟩

theorem cellsWithin_insert {lines : Span} {shift : Shift} (h : w.insert lines shift = .ok w') :
    w.CellsWithin w.activeIndex (fun p => lines.first ≤ p.line lines.axis) w' := by
  rw [insert] at h
  split at h
  · refine cellsWithin_changeActive h fun s t ht => ?_
    cases ht
    exact s.sameOutside_insertLines lines
  · cases h

theorem cellsWithin_delete {lines : Span} {shift : Shift} (h : w.delete lines shift = .ok w') :
    w.CellsWithin w.activeIndex (fun p => lines.first ≤ p.line lines.axis) w' := by
  rw [delete] at h
  split at h
  · refine cellsWithin_changeActive h fun s t ht => ?_
    cases ht
    exact s.sameOutside_deleteLines lines
  · cases h

/-- A sheet that is added has a free name and comes last. -/
theorem addSheet_eq_ok {name : String} (h : w.addSheet name = .ok w') :
    w.sheetIndex? name = none ∧ w' = { w with sheets := w.sheets ++ [{ name }] } := by
  rw [addSheet] at h
  split at h
  · cases h
  next hfree =>
    cases h
    exact ⟨by simpa using hfree, rfl⟩

/-- A sheet that is deleted is the first with that name, and not the only one. -/
theorem deleteSheet_eq_ok {name : String} (h : w.deleteSheet name = .ok w') :
    ∃ i active, w.sheetIndex? name = some i ∧ w.sheets.length ≠ 1 ∧
      w' = { w with sheets := w.sheets.eraseIdx i, active } := by
  obtain ⟨i, hi, h⟩ := bind_eq_ok h
  rw [orFail_eq_ok_iff, requireSheet_eq_ok_iff] at hi
  split at h
  · cases h
  next hlength =>
    cases h
    exact ⟨i, _, hi, hlength, rfl⟩

/-- A sheet that is renamed is the first with the old name. -/
theorem renameSheet_eq_ok {old new : String} (h : w.renameSheet old new = .ok w') :
    ∃ i s, w.sheetIndex? old = some i ∧ w.sheets[i]? = some s ∧
      w' = w.withSheet i { s with name := new } := by
  obtain ⟨i, hi, h⟩ := bind_eq_ok h
  rw [orFail_eq_ok_iff, requireSheet_eq_ok_iff] at hi
  split at h
  · cases h
  · obtain ⟨s, hs, h⟩ := bind_eq_ok h
    cases h
    exact ⟨i, s, hi, sheetAt_eq_ok_iff.mp hs, rfl⟩

/-- A sheet that is made active only changes the index that is stored. -/
theorem activateSheet_eq_ok {name : String} (h : w.activateSheet name = .ok w') :
    ∃ i, w.sheetIndex? name = some i ∧ w' = { w with active := i } := by
  obtain ⟨i, hi, h⟩ := bind_eq_ok h
  rw [orFail_eq_ok_iff, requireSheet_eq_ok_iff] at hi
  cases h
  exact ⟨i, hi, rfl⟩

theorem select_eq_ok (h : w.select a = .ok w') : w' = { w with selection := some a } := by
  obtain ⟨-, -, h⟩ := bind_eq_ok h
  cases h
  rfl

/-- A chart is added to the active sheet. -/
theorem chartsWithin_addChart {kind title name : String} (h : w.addChart kind a title = .ok (name, w')) :
    w.ChartsWithin w' := by
  obtain ⟨_, -, h⟩ := bind_eq_ok h
  obtain ⟨w₁, hchange, h⟩ := bind_eq_ok h
  cases h
  obtain ⟨s, t, hs, ht, rfl⟩ := exists_of_changeActive hchange
  cases ht
  exact ⟨s, _, hs, rfl⟩

theorem chartsWithin_deleteChart {name : String} (h : w.deleteChart name = .ok w') :
    w.ChartsWithin w' := by
  obtain ⟨s, t, hs, ht, rfl⟩ := exists_of_changeActive h
  split at ht
  · cases ht
    exact ⟨s, _, hs, rfl⟩
  · cases ht

end Workbook

/-! ## Steps that succeed -/

section

variable {α β : Type} {w w' : Workbook} {b : β}

/-- A question that a successful step starts with was answered. -/
theorem ask_of_run {f : Workbook → Except Failure α} {k : α → Step Workbook β}
    (h : (call (Workbook.ask f) >>= k).run w = (.ok b, w')) :
    ∃ a, f w = .ok a ∧ (k a).run w = (.ok b, w') := by
  rw [run_ask_bind] at h
  cases hf : f w with
  | ok a =>
    rw [hf] at h
    exact ⟨a, rfl, h⟩
  | error e =>
    rw [hf] at h
    cases h

/-- A change that a successful step starts with was made. -/
theorem act_of_run {f : Workbook → Except Failure Workbook} {k : Unit → Step Workbook β}
    (h : (call (Workbook.act f) >>= k).run w = (.ok b, w')) :
    ∃ w₁, f w = .ok w₁ ∧ (k ()).run w₁ = (.ok b, w') := by
  rw [run_act_bind] at h
  cases hf : f w with
  | ok w₁ =>
    rw [hf] at h
    exact ⟨w₁, rfl, h⟩
  | error e =>
    rw [hf] at h
    cases h

/-- A call with an answer that is followed by other steps has succeeded, if these have. -/
theorem actWith_of_run {f : Workbook → Except Failure (α × Workbook)} {k : α → Step Workbook β}
    (h : (call (Workbook.actWith f) >>= k).run w = (.ok b, w')) :
    ∃ a w₁, f w = .ok (a, w₁) ∧ (k a).run w₁ = (.ok b, w') := by
  rw [run_step_bind, run_call, Workbook.run_actWith] at h
  cases hf : f w with
  | ok r =>
    rw [hf] at h
    exact ⟨r.1, r.2, rfl, h⟩
  | error e =>
    rw [hf] at h
    cases h

end

namespace Operation

variable {limit : Option Nat} {w w' : Workbook} {inverse : List Command} {op : Operation}

/-- A sheet is created, or a name that is taken is passed over in silence. -/
theorem createSheet_of_run {name : String}
    (h : ((createSheet name).perform Workbook.host limit).run w = (.ok inverse, w')) :
    (inverse = [] ∧ w' = w) ∨
      (w.sheetIndex? name = none ∧ inverse = [.plain .deleteSheet [name]] ∧
        w' = { w with sheets := w.sheets ++ [{ name }] }) := by
  rw [perform, performCreateSheet, run_step_tryCatch] at h
  simp only [Workbook.host, run_act_bind] at h
  cases hadd : w.addSheet name with
  | ok w₁ =>
    rw [hadd] at h
    cases h
    obtain ⟨hfree, rfl⟩ := Workbook.addSheet_eq_ok hadd
    exact Or.inr ⟨hfree, rfl, rfl⟩
  | error e =>
    rw [hadd] at h
    simp only at h
    split at h
    · cases h
      exact Or.inl ⟨rfl, rfl⟩
    · cases h

/-- The calls of an operation that succeeds have kept within its reach. The proof follows the calls of
each operation. -/
theorem staysWithin_of_run (h : (op.perform Workbook.host limit).run w = (.ok inverse, w')) :
    op.StaysWithin w w' := by
  cases op with
  | setValue a v =>
    obtain ⟨_, -, h⟩ := ask_of_run h
    obtain ⟨_, -, h⟩ := ask_of_run h
    obtain ⟨w₁, hw, h⟩ := act_of_run h
    cases h
    exact Workbook.cellsWithin_write hw
  | setFormula a _ | formatBold a _ | formatColor a _ | formatFill a _ =>
    obtain ⟨_, -, h⟩ := ask_of_run h
    obtain ⟨w₁, hw, h⟩ := act_of_run h
    cases h
    exact Workbook.cellsWithin_write hw
  | clear a =>
    obtain ⟨w₁, hw, h⟩ := act_of_run h
    cases h
    exact Workbook.cellsWithin_clear hw
  | select a =>
    obtain ⟨w₁, hw, h⟩ := act_of_run h
    cases h
    exact Workbook.select_eq_ok hw
  | insertLines lines =>
    obtain ⟨w₁, hw, h⟩ := act_of_run h
    cases h
    exact Workbook.cellsWithin_insert hw
  | deleteLines lines =>
    obtain ⟨w₁, hw, h⟩ := act_of_run h
    cases h
    exact Workbook.cellsWithin_delete hw
  | copy source target =>
    cases limit with
    | none =>
      obtain ⟨w₁, hw, h⟩ := act_of_run h
      cases h
      exact Workbook.cellsWithin_copy hw
    | some n =>
      obtain ⟨_, -, h⟩ := ask_of_run h
      obtain ⟨w₁, hw, h⟩ := act_of_run h
      cases h
      exact Workbook.cellsWithin_copy hw
  | sort a key ascending =>
    obtain ⟨w₁, hw, h⟩ := act_of_run h
    cases h
    exact Workbook.cellsWithin_sort hw
  | createSheet name =>
    rcases createSheet_of_run h with ⟨-, rfl⟩ | ⟨-, -, rfl⟩
    · exact Or.inl rfl
    · exact Or.inr rfl
  | deleteSheet name =>
    obtain ⟨w₁, hw, h⟩ := act_of_run h
    cases h
    obtain ⟨i, active, hi, -, rfl⟩ := Workbook.deleteSheet_eq_ok hw
    exact ⟨i, active, hi, rfl⟩
  | renameSheet old new =>
    obtain ⟨stored, hstored, h⟩ := ask_of_run h
    obtain ⟨w₁, hw, h⟩ := act_of_run h
    cases h
    obtain ⟨i, s, hi, hs, rfl⟩ := Workbook.renameSheet_eq_ok hw
    exact ⟨stored, i, s, hstored, hi, hs, rfl⟩
  | activateSheet name =>
    obtain ⟨w₁, hw, h⟩ := act_of_run h
    cases h
    exact Workbook.activateSheet_eq_ok hw
  | createChart kind source title =>
    obtain ⟨_, w₁, hw, h⟩ := actWith_of_run h
    cases h
    exact Workbook.chartsWithin_addChart hw
  | deleteChart term =>
    obtain ⟨charts, -, h⟩ := ask_of_run h
    cases hfound : findChart? charts term with
    | none =>
      rw [hfound] at h
      cases h
    | some found =>
      rw [hfound] at h
      obtain ⟨w₁, hw, h⟩ := act_of_run h
      cases h
      exact Workbook.chartsWithin_deleteChart hw
  | deleteAllCharts =>
    -- there is an active sheet, since its charts could be listed
    obtain ⟨_, hcharts, -⟩ := ask_of_run h
    obtain ⟨s, hs, -⟩ := bind_eq_ok hcharts
    have hactive : w.activeSheet? = some s := Workbook.sheetAt_eq_ok_iff.mp hs
    rw [perform_deleteAllCharts hactive] at h
    cases h
    exact ⟨s, [], hactive, rfl⟩

/-- What an operation leaves alone whatever it does to the sheets: the selection, and which sheet is
active. -/
theorem StaysWithin.kept (h : op.StaysWithin w w') :
    ((∀ a, op ≠ .select a) → w'.selection = w.selection) ∧
      ((∀ name, op ≠ .activateSheet name ∧ op ≠ .deleteSheet name) → w'.active = w.active) := by
  cases op with
  | setValue | setFormula | formatBold | formatColor | formatFill | clear | sort =>
    obtain ⟨_, _, _, _, _, _, _, rfl⟩ := h
    exact ⟨fun _ => rfl, fun _ => rfl⟩
  | copy =>
    obtain ⟨_, _, _, _, _, _, _, _, _, _, rfl⟩ := h
    exact ⟨fun _ => rfl, fun _ => rfl⟩
  | insertLines | deleteLines =>
    obtain ⟨_, _, _, _, rfl⟩ := h
    exact ⟨fun _ => rfl, fun _ => rfl⟩
  | createSheet =>
    rcases h with rfl | rfl
    · exact ⟨fun _ => rfl, fun _ => rfl⟩
    · exact ⟨fun _ => rfl, fun _ => rfl⟩
  | renameSheet =>
    obtain ⟨_, _, _, _, _, _, rfl⟩ := h
    exact ⟨fun _ => rfl, fun _ => rfl⟩
  | createChart | deleteChart | deleteAllCharts =>
    obtain ⟨_, _, _, rfl⟩ := h
    exact ⟨fun _ => rfl, fun _ => rfl⟩
  | select a =>
    subst h
    exact ⟨fun hop => absurd rfl (hop a), fun _ => rfl⟩
  | deleteSheet name =>
    obtain ⟨_, _, _, rfl⟩ := h
    exact ⟨fun _ => rfl, fun hop => absurd rfl (hop name).2⟩
  | activateSheet name =>
    obtain ⟨_, _, rfl⟩ := h
    exact ⟨fun _ => rfl, fun hop => absurd rfl (hop name).1⟩

/-- An operation that succeeds stays within its reach. Only `select` changes the selection, and only
activating or deleting a sheet changes which sheet is stored as the active one. -/
theorem perform_staysWithin (h : (op.perform Workbook.host limit).run w = (.ok inverse, w')) :
    op.StaysWithin w w' ∧ ((∀ a, op ≠ .select a) → w'.selection = w.selection) ∧
      ((∀ name, op ≠ .activateSheet name ∧ op ≠ .deleteSheet name) → w'.active = w.active) := by
  have hwithin := staysWithin_of_run h
  exact ⟨hwithin, hwithin.kept⟩

/-- A copy onto another sheet. -/
def copyToData : Operation :=
  .copy ⟨none, "A1"⟩ ⟨some "Data", "A1"⟩

theorem perform_staysWithin_copyToData :
    ∃ inverse w', (copyToData.perform Workbook.host none).run .twoSheets = (.ok inverse, w') ∧
      copyToData.StaysWithin .twoSheets w' ∧
      ((∀ a, copyToData ≠ .select a) → w'.selection = Workbook.twoSheets.selection) ∧
      ((∀ name, copyToData ≠ .activateSheet name ∧ copyToData ≠ .deleteSheet name) →
        w'.active = Workbook.twoSheets.active) := by
  have hrun : (copyToData.perform Workbook.host none).run .twoSheets =
      (.ok [], { sheets := [.withFirstCell "Sheet1" "a", .withFirstCell "Data" "a"] }) := by
    show @Eq (Except StepFailure (List Command) × Workbook) _ _
    decide +kernel
  exact ⟨_, _, hrun, perform_staysWithin hrun⟩

end Operation

end SheetScript
