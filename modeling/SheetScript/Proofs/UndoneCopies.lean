import SheetScript.Proofs.Restoring
import SheetScript.Proofs.UndoneWrites

/-!
# Undoing a copy

A copy overwrites as many cells as the source has, from the first cell of the target on. What it records
puts back the cells of the target as it was written, so what was overwritten outside the target stays
overwritten.

- `Sheet.reenterBlock_pasteBlock_eq_iff`: the target is put back, and the rest is as the copy left it.
- `Sheet.reenterBlock_pasteBlock_of_le`: so a source that is no larger than the target leaves no trace.
- `Operation.leadsBack_copy`: what is recorded for a copy can be carried out right after.
- `Editor.undo_copy_iff`: an undo restores the workbook exactly if the copy changed no cell outside the
  target.
-/

namespace SheetScript

open Grid

/-! ## Pasted and put back -/

namespace Sheet

variable {s t : Sheet} {b b' : Block} {origin : Cells} {p : Position}

/-- A block was pasted and the cells of the target were put back. The sheet is what it was exactly if no
cell outside the target was changed. -/
theorem reenterBlock_pasteBlock_eq_iff (hnormal : t.cells.All Cell.Normal) :
    (t.pasteBlock b origin b'.topLeft).reenterBlock b' t.cells = t ↔
      ∀ p, (t.pasteBlock b origin b'.topLeft).cells.get p ≠ t.cells.get p → b'.contains p = true := by
  set pasted := t.pasteBlock b origin b'.topLeft
  have hback : ∀ p, (pasted.reenterBlock b' t.cells).cells.get p =
      if b'.contains p then t.cells.get p else pasted.cells.get p := by
    intro p
    rw [get_reenterBlock, Cell.reentered_eq_self_iff.mpr (hnormal p)]
  constructor
  · intro heq p hne
    by_contra hout
    have hget := hback p
    rw [heq, if_neg hout] at hget
    exact hne hget.symm
  · intro hkept
    have hcells : (pasted.reenterBlock b' t.cells).cells = t.cells := by
      refine Cells.ext fun p => ?_
      rw [hback]
      split
      next => rfl
      next hout =>
        by_contra hne
        exact hout (hkept p hne)
    show ({ t with cells := (pasted.reenterBlock b' t.cells).cells } : Sheet) = t
    rw [hcells]

/-- A source that is no larger than the target is pasted within the target. -/
theorem contains_of_get_pasteBlock_ne (hheight : b.height ≤ b'.height) (hwidth : b.width ≤ b'.width)
    (h : (t.pasteBlock b origin b'.topLeft).cells.get p ≠ t.cells.get p) : b'.contains p = true := by
  rw [get_pasteBlock] at h
  split at h
  next hin =>
    have hrows := b'.rows_ordered
    have hcols := b'.columns_ordered
    rw [Block.contains_iff] at hin ⊢
    simp only [Block.moveTo, Block.topLeft, Block.height, Block.width] at hin hheight hwidth
    omega
  next => exact absurd rfl h

/-- So the copy of a source that is no larger than the target is taken back completely. -/
theorem reenterBlock_pasteBlock_of_le (hheight : b.height ≤ b'.height) (hwidth : b.width ≤ b'.width)
    (hnormal : t.cells.All Cell.Normal) :
    (t.pasteBlock b origin b'.topLeft).reenterBlock b' t.cells = t :=
  (reenterBlock_pasteBlock_eq_iff hnormal).mpr fun _ => contains_of_get_pasteBlock_ne hheight hwidth

end Sheet

namespace Operation

variable {limit : Option Nat} {w w₁ : Workbook} {source target : Address} {i j : Nat} {s t : Sheet}
  {b b' : Block} {inverse : List Command}

/-- The addresses of a copy that was read are read again from their own texts. -/
theorem wellFormed_of_copy {c : Command} (h : decode c = .ok (.copy source target)) :
    source.WellFormed ∧ target.WellFormed := by
  rw [decode] at h
  split at h
  next => cases h
  next => cases h
  next =>
    unfold ofVerb at h
    split at h
    case h_12 =>
      obtain ⟨a, hsource, h⟩ := bind_eq_ok h
      obtain ⟨a', htarget, h⟩ := bind_eq_ok h
      cases h
      exact ⟨wellFormed_of_address hsource, wellFormed_of_address htarget⟩
    -- no other verb is read as a copy
    case h_13 | h_17 =>
      obtain ⟨_, -, h⟩ := bind_eq_ok h
      obtain ⟨_, -, h⟩ := bind_eq_ok h
      cases h
    case h_20 | h_21 | h_22 => cases h
    case h_23 => split at h <;> cases h
    all_goals
      obtain ⟨_, -, h⟩ := bind_eq_ok h
      cases h

/-- What is recorded for a copy, if anything, can be carried out right after and puts the target back. -/
theorem leadsBack_copy (ha : target.WellFormed) (hsource : w.Names source i s b)
    (htarget : w.Names target j t b')
    (hrun : ((copy source target).perform Workbook.host limit).run w = (.ok inverse, w₁))
    (hinverse : inverse ≠ []) :
    LeadsBack limit inverse w₁
      (w.withSheet j ((t.pasteBlock b s.cells b'.topLeft).reenterBlock b' t.cells)) := by
  rw [perform_copy hsource htarget] at hrun
  cases hrun
  set placed := (t.cells.within b').map fun e => PlacedCell.mk (target.withReference e.1.text) e.2
  have hrecorded : copyInverse limit target placed =
      .plain .clear [target.text] :: placed.flatMap restoreCell := by
    cases limit with
    | none => exact absurd rfl hinverse
    | some n =>
      rw [copyInverse, restoreBlock] at hinverse ⊢
      split
      next hmore => exact absurd (if_pos hmore) hinverse
      next => rfl
  have hpasted : (w.withSheet j (t.pasteBlock b s.cells b'.topLeft)).Names target j _ b' :=
    htarget.withSheet rfl
  obtain ⟨again, hback⟩ := runsThrough_restoreBlock limit ha hpasted t.cells
  rw [Workbook.withSheet_withSheet] at hback
  rw [hrecorded]
  exact ⟨again, hback⟩

end Operation

namespace Editor

variable (ed : Editor) {w w₁ : Workbook} {undo c : Command} {source target : Address} {i j : Nat}
  {s t : Sheet} {b b' : Block} {inverse : List Command}

/-- A copy that has something to undo is executed, and an undo right after it succeeds and puts the target
back. So the workbook is the former one exactly if the copy changed no cell outside the target. -/
theorem undo_copy_iff (hundo : undo.isUndo = true) (hdepth : 1 ≤ ed.history.depth)
    (hdecode : Operation.decode c = .ok (.copy source target)) (hsource : w.Names source i s b)
    (htarget : w.Names target j t b') (hnormal : ∀ s ∈ w.sheets, s.cells.All Cell.Normal)
    (hrun : ((Operation.copy source target).perform Workbook.host ed.copyLimit).run w =
      (.ok inverse, w₁))
    (hinverse : inverse ≠ []) :
    ∃ ed₁ outcome ed₂ w₂,
      ed.execute Workbook.host [c] w = .ok ({ executed := 1 }, ed₁, w₁) ∧
      ed₁.execute Workbook.host [undo] w₁ = .ok (outcome, ed₂, w₂) ∧ outcome.success = true ∧
      w₂ = w.withSheet j ((t.pasteBlock b s.cells b'.topLeft).reenterBlock b' t.cells) ∧
      (w₂ = w ↔ ∀ p, (t.pasteBlock b s.cells b'.topLeft).cells.get p ≠ t.cells.get p →
        b'.contains p = true) := by
  have hback := Operation.leadsBack_copy (Operation.wellFormed_of_copy hdecode).2 hsource htarget hrun
    hinverse
  obtain ⟨ed₁, outcome, ed₂, hexecute, hundone, hsuccess⟩ :=
    ed.execute_then_undo hundo hdepth (.single ⟨_, hdecode, hrun⟩) hinverse hback
  refine ⟨ed₁, outcome, ed₂, _, hexecute, hundone, hsuccess, rfl, ?_⟩
  rw [Workbook.withSheet_eq_self_iff htarget.sheet_eq]
  exact Sheet.reenterBlock_pasteBlock_eq_iff (hnormal t (List.mem_of_getElem? htarget.sheet_eq))

/-- The first cells of the three rows. -/
def firstColumn : Block :=
  .ofCorners firstCell ⟨3, 1, by decide, one_mem_columns⟩

/-- The third cell of the first row. -/
def thirdCell : Block :=
  .ofCorners ⟨1, 3, one_mem_rows, by decide⟩ ⟨1, 3, one_mem_rows, by decide⟩

theorem names_firstColumn :
    Workbook.threeRows.Names ⟨none, "A1:A3"⟩ 0 Sheet.threeRows firstColumn where
  indexOf?_eq := rfl
  sheet_eq := rfl
  parse?_eq := rfl

theorem names_thirdCell : Workbook.threeRows.Names ⟨none, "C1"⟩ 0 Sheet.threeRows thirdCell where
  indexOf?_eq := rfl
  sheet_eq := rfl
  parse?_eq := rfl

/-- Three cells copied onto one. -/
def copyColumn : Command :=
  .plain .copy ["A1:A3", "C1"]

/-- An editor that records what copies overwrite. -/
def recording : Editor where
  copyLimit := some 50

theorem undo_copy_iff_threeRows :
    ∃ ed₁ outcome ed₂ w₂,
      recording.execute Workbook.host [copyColumn] .threeRows =
        .ok ({ executed := 1 }, ed₁, Workbook.threeRows.withSheet 0
          (Sheet.threeRows.pasteBlock firstColumn Sheet.threeRows.cells thirdCell.topLeft)) ∧
      ed₁.execute Workbook.host [.plain .undo []] (Workbook.threeRows.withSheet 0
          (Sheet.threeRows.pasteBlock firstColumn Sheet.threeRows.cells thirdCell.topLeft)) =
        .ok (outcome, ed₂, w₂) ∧ outcome.success = true ∧
      w₂ = Workbook.threeRows.withSheet 0
        ((Sheet.threeRows.pasteBlock firstColumn Sheet.threeRows.cells thirdCell.topLeft).reenterBlock
          thirdCell Sheet.threeRows.cells) ∧
      (w₂ = .threeRows ↔
        ∀ p, (Sheet.threeRows.pasteBlock firstColumn Sheet.threeRows.cells
            thirdCell.topLeft).cells.get p ≠ Sheet.threeRows.cells.get p →
          thirdCell.contains p = true) := by
  have hdecode : Operation.decode copyColumn = .ok (.copy ⟨none, "A1:A3"⟩ ⟨none, "C1"⟩) := rfl
  have hrun := Operation.perform_copy names_firstColumn names_thirdCell (some 50)
  exact undo_copy_iff recording rfl (by decide) hdecode names_firstColumn names_thirdCell
    (by decide) hrun (by decide)

/-- The cells below the target stay overwritten. -/
theorem undo_copyColumn_threeRows :
    (∀ s ∈ Workbook.threeRows.sheets, s.cells.All Cell.Normal) ∧
    ((recording.execute Workbook.host [copyColumn] .threeRows).map fun r => r.2.1.history.batches) =
      .ok [[.plain .clear ["C1"]]] ∧
    (((recording.execute Workbook.host [copyColumn] .threeRows).bind fun (_, ed, w) =>
        ed.execute Workbook.host [.plain .undo []] w).map fun r =>
          (r.1.success, r.2.2.sheets.map fun s => s.cells.getAt 2 3)) =
      .ok (true, [{ value := "b" }]) ∧
    Workbook.threeRows.sheets.map (fun s => s.cells.getAt 2 3) = [.blank] := by
  refine ⟨?_, ?_, ?_, ?_⟩ <;> decide +kernel

end Editor

end SheetScript
