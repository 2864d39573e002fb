import SheetScript.Proofs.Landing
import SheetScript.Proofs.RowMacros
import SheetScript.Proofs.Validity

/-!
# What an undone write leaves

A write records what it saw in the first cell of its block, as one command for the whole block. So an
undo right after it gives every cell of the block what the first one had, and a formula that is recorded
is told from a constant by its equals sign.

- `Cells.levelled`: the cells of a block with one part of its first cell; `levelled_eq_self_iff`: when
  they had it before.
- `Editor.undo_written_iff`: an undone write of one part of a block levels that part.
- `Operation.Misreads`: what is entered over a constant that looks like a formula.
- `leadsBack_entered_iff`: what is recorded when a text is entered into one cell puts the contents back,
  but for such a constant.
-/

namespace SheetScript

open Grid

/-! ## Blocks -/

namespace Cells

variable {cells : Cells} {b : Block} {part : Cell.Part} {p : Position}

/-- The cells of a block with one part of its first cell. -/
def levelled (cells : Cells) (b : Block) (part : Cell.Part) : Cells :=
  cells.update b.positions fun c => c.withPart part (cells.get b.topLeft)

/-- After an undo, a part of the cells of a block is that of its first cell. -/
theorem get_levelled :
    (cells.levelled b part).get p =
      if b.contains p then (cells.get p).withPart part (cells.get b.topLeft) else cells.get p :=
  get_update_block _ b

/-- Nothing changes exactly if the cells of the block agreed in that part. -/
theorem levelled_eq_self_iff :
    cells.levelled b part = cells ↔
      ∀ p, b.contains p = true → (cells.get p).only part = (cells.get b.topLeft).only part := by
  constructor
  · intro h p hp
    have hget : (cells.levelled b part).get p = cells.get p := by rw [h]
    rw [get_levelled, if_pos hp] at hget
    rw [← hget, Cell.only_withPart_self]
  · intro h
    refine Cells.ext fun p => ?_
    rw [get_levelled]
    by_cases hp : b.contains p = true
    · rw [if_pos hp]
      refine Cell.eq_of_only fun other => ?_
      by_cases hother : other = part
      · subst hother
        rw [Cell.only_withPart_self, h p hp]
      · exact Cell.only_withPart_of_ne hother
    · rw [if_neg hp]

/-- A block that was written to twice. -/
theorem update_update_block (f g : Cell → Cell) :
    (cells.update b.positions f).update b.positions g = cells.update b.positions (g ∘ f) := by
  refine Cells.ext fun p => ?_
  simp only [get_update_block]
  split <;> rfl

end Cells

/-- Putting another sheet changes the workbook. -/
theorem Workbook.withSheet_eq_self_iff {w : Workbook} {i : Nat} {s t : Sheet}
    (hs : w.sheets[i]? = some s) : w.withSheet i t = w ↔ t = s := by
  constructor
  · intro h
    have ht := Workbook.getElem?_withSheet_self hs t
    rw [h, hs] at ht
    exact (Option.some.inj ht).symm
  · rintro rfl
    exact Workbook.withSheet_self hs

section

variable {w : Workbook} {op : Operation} {a : Address} {part : Cell.Part} {i : Nat} {s : Sheet}
  {b : Block}

/-- What is recorded for a write of one part levels that part. -/
theorem leadsBack_written (hop : op.written? = some (a, part)) (ha : a.WellFormed)
    (h : w.Names a i s b) (hsize : b.size ≤ Sheet.maxWrite)
    (hnormal : (s.cells.get b.topLeft).Normal) (limit : Option Nat) :
    ∃ back w₁, (op.perform Workbook.host limit).run w = (.ok [back], w₁) ∧
      LeadsBack limit [back] w₁ (w.withSheet i { s with cells := s.cells.levelled b part }) := by
  obtain ⟨write, source, hwrite, rfl, -, hchange, hrestore⟩ := Operation.exists_cellWrite hop
  -- the part that was written is gone again, whatever it was
  have hcell : write.restore (s.cells.get b.topLeft) ∘ write.change =
      fun c => c.withPart part (s.cells.get b.topLeft) := by
    funext c
    show write.restore (s.cells.get b.topLeft) (write.change c) = _
    rw [hrestore _ hnormal, hchange]
    cases part <;> rfl
  have hwritten : (w.withSheet i { s with cells := s.cells.update b.positions write.change }).Names
      write.address i { s with cells := s.cells.update b.positions write.change } b :=
    h.withSheet rfl
  have hback : LeadsBack limit _ _ _ :=
    leadsBack_write hwrite ha (s.cells.get b.topLeft) hwritten hsize
  rw [Workbook.withSheet_withSheet, Cells.update_update_block, hcell] at hback
  exact ⟨_, _, perform_write hwrite h hsize limit, hback⟩

end

namespace Editor

variable (ed : Editor) {w : Workbook} {undo c : Command} {op : Operation} {a : Address}
  {part : Cell.Part} {i : Nat} {s : Sheet} {b : Block}

/-- A command that writes one part of a block is executed, and an undo right after it succeeds. Then all
cells of the block have that part of its first cell, so the workbook is the former one exactly if they
all had it before. -/
theorem undo_written_iff (hundo : undo.isUndo = true) (hdepth : 1 ≤ ed.history.depth)
    (hdecode : Operation.decode c = .ok op) (hop : op.written? = some (a, part))
    (h : w.Names a i s b) (hsize : b.size ≤ Sheet.maxWrite)
    (hnormal : ∀ s ∈ w.sheets, s.cells.All Cell.Normal) :
    ∃ ed₁ w₁ outcome ed₂ w₂,
      ed.execute Workbook.host [c] w = .ok ({ executed := 1 }, ed₁, w₁) ∧
      ed₁.execute Workbook.host [undo] w₁ = .ok (outcome, ed₂, w₂) ∧ outcome.success = true ∧
      w₂ = w.withSheet i { s with cells := s.cells.levelled b part } ∧
      (w₂ = w ↔
        ∀ p, b.contains p = true →
          (s.cells.get p).only part = (s.cells.get b.topLeft).only part) := by
  have ha := Operation.wellFormed_of_decode hdecode (Operation.target?_of_written? hop)
  have hfirst := hnormal s (List.mem_of_getElem? h.sheet_eq) b.topLeft
  obtain ⟨back, w₁, hrun, hback⟩ := leadsBack_written hop ha h hsize hfirst ed.copyLimit
  obtain ⟨ed₁, outcome, ed₂, hexecute, hundone, hsuccess⟩ :=
    ed.execute_then_undo hundo hdepth (.single ⟨op, hdecode, hrun⟩) (by simp) hback
  refine ⟨ed₁, w₁, outcome, ed₂, _, hexecute, hundone, hsuccess, rfl, ?_⟩
  rw [Workbook.withSheet_eq_self_iff h.sheet_eq, ← Cells.levelled_eq_self_iff]
  constructor
  · intro heq
    exact congrArg Sheet.cells heq
  · intro heq
    rw [heq]

/-- The first cells of the first two rows. -/
def firstTwoRows : Block :=
  ⟨1, 1, 2, 1, by decide, by decide, by decide, by decide⟩

theorem names_firstTwoRows :
    Workbook.threeRows.Names ⟨none, "A1:A2"⟩ 0 Sheet.threeRows firstTwoRows where
  indexOf?_eq := rfl
  sheet_eq := rfl
  parse?_eq := rfl

/-- Two cells that are made bold and were both not bold before. -/
theorem undo_written_iff_firstTwoRows :
    ∃ ed₁ w₁ outcome ed₂ w₂,
      execute {} Workbook.host [.plain .formatBold ["A1:A2", "true"]] .threeRows =
        .ok ({ executed := 1 }, ed₁, w₁) ∧
      ed₁.execute Workbook.host [.plain .undo []] w₁ = .ok (outcome, ed₂, w₂) ∧
      outcome.success = true ∧
      w₂ = Workbook.threeRows.withSheet 0
        { Sheet.threeRows with cells := Sheet.threeRows.cells.levelled firstTwoRows .bold } ∧
      (w₂ = Workbook.threeRows ↔
        ∀ p, firstTwoRows.contains p = true →
          (Sheet.threeRows.cells.get p).only .bold =
            (Sheet.threeRows.cells.get firstTwoRows.topLeft).only .bold) :=
  have hdecode : Operation.decode (.plain .formatBold ["A1:A2", "true"]) =
      .ok (.formatBold ⟨none, "A1:A2"⟩ true) := by
    decide +kernel
  undo_written_iff {} rfl (by decide) hdecode rfl names_firstTwoRows (by decide) (by decide +kernel)

/-- A constant that was written over two cells is undone with the first of them in both. -/
theorem undo_setValue_firstTwoRows :
    (∀ s ∈ Workbook.threeRows.sheets, s.cells.All Cell.Normal) ∧
    Workbook.threeRows.resolve ⟨none, "A1:A2"⟩ = .ok (0, firstTwoRows) ∧
    firstTwoRows.size ≤ Sheet.maxWrite ∧
    ((execute {} Workbook.host [.plain .setValue ["A1:A2", "x"]] .threeRows).bind fun (_, ed, w) =>
        ed.execute Workbook.host [.plain .undo []] w).map (fun r => (r.1.success, r.2.2.sheets)) =
      .ok (true, [.ofColumn ["a", "a", "c"]]) ∧
    Workbook.threeRows.sheets ≠ [.ofColumn ["a", "a", "c"]] := by
  refine ⟨?_, ?_, ?_, ?_, ?_⟩ <;> decide +kernel

end Editor

/-! ## One cell -/

/-- A text that is entered takes the place of one that was entered before. -/
theorem Cell.withEntry_withEntry (t u : String) (c : Cell) :
    (c.withEntry t).withEntry u = c.withEntry u := by
  have hformats := Cell.withEntry_formats t c
  unfold Cell.withEntry Cell.withValue at hformats ⊢
  split <;> split <;> simp_all

/-- Whether what an operation records for a cell with these contents makes other contents of them: a
constant that looks like a formula was replaced by entering a text. -/
def Operation.Misreads (old : Cell) : Operation → Prop
  | .setFormula _ _ => old.formula = none ∧ old.value.toList.head? = some '='
  | _ => False

instance (old : Cell) : DecidablePred (Operation.Misreads old)
  | .setFormula _ _ =>
    inferInstanceAs (Decidable (old.formula = none ∧ old.value.toList.head? = some '='))
  | .setValue _ _ | .formatBold _ _ | .formatColor _ _ | .formatFill _ _ | .clear _ | .select _
  | .insertLines _ | .deleteLines _ | .copy _ _ | .sort _ _ _ | .createSheet _ | .deleteSheet _
  | .renameSheet _ _ | .activateSheet _ | .createChart _ _ _ | .deleteChart _ | .deleteAllCharts =>
    inferInstanceAs (Decidable False)

/-- What a normal cell shows, entered into it, gives its contents back unless they are a constant that
looks like a formula. -/
theorem Cell.Normal.withEntry_shown_iff {c : Cell} (h : c.Normal) :
    c.withEntry c.shown = c ↔ ¬(c.formula = none ∧ c.value.toList.head? = some '=') := by
  obtain ⟨value, formula, bold, fill⟩ := c
  cases formula with
  | none =>
    by_cases hvalue : value.toList.head? = some '='
    · simp [Cell.shown, Cell.withEntry, hvalue]
    · simp [Cell.shown, Cell.withEntry, Cell.withValue, hvalue]
  | some f =>
    obtain ⟨hvalue, hf⟩ := h f rfl
    obtain rfl : value = "" := hvalue
    simp [Cell.shown, Cell.withEntry, hf]

section

variable {limit : Option Nat} {w : Workbook} {op : Operation} {a : Address} {text : String} {i : Nat}
  {s : Sheet} {p : Position}

/-- What is recorded when a text is entered into one cell puts the old cell back, or else enters the
constant that it had as a text. -/
theorem leadsBack_entered (hop : op = .setValue a text ∨ op = .setFormula a text)
    (ha : a.WellFormed) (h : w.NamesCell a i s p) (hnormal : (s.cells.get p).Normal) :
    ∃ inverse w₁ cell, (op.perform Workbook.host limit).run w = (.ok inverse, w₁) ∧
      LeadsBack limit inverse w₁ (w.withSheet i (s.setCell p cell)) ∧
      cell = if op.Misreads (s.cells.get p) then (s.cells.get p).withEntry (s.cells.get p).value
        else s.cells.get p := by
  rcases hop with rfl | rfl
  · have hwrite : (Operation.setValue a text).cellWrite? = some _ := rfl
    have hback : LeadsBack limit _ _ _ := leadsBack_writeCell hwrite ha h (s.cells.get p)
      ((s.cells.get p).withValue text)
    refine ⟨_, _, _, perform_setValue h limit text, hback, ?_⟩
    rw [if_neg (by simp [Operation.Misreads])]
    exact hnormal.restored _
  · have hwrite : (Operation.setFormula a text).cellWrite? = some _ := rfl
    have hback : LeadsBack limit _ _ _ := leadsBack_writeCell hwrite ha h (s.cells.get p)
      ((s.cells.get p).withEntry text)
    refine ⟨_, _, _, perform_setFormula h limit text, hback, ?_⟩
    show ((s.cells.get p).withEntry text).withEntry (s.cells.get p).shown = _
    rw [Cell.withEntry_withEntry]
    by_cases hmis : (Operation.setFormula a text).Misreads (s.cells.get p)
    · rw [if_pos hmis, Cell.shown, hmis.1]
      rfl
    · rw [if_neg hmis]
      exact hnormal.withEntry_shown_iff.mpr hmis

/-- What is misread is a constant with an equals sign at its start. -/
theorem Operation.Misreads.head?_eq {old : Cell} (h : op.Misreads old) :
    old.formula = none ∧ old.value.toList.head? = some '=' := by
  cases op with
  | setFormula _ _ => exact h
  | _ => exact h.elim

/-- In a workbook that was made by any actions, a text is entered into one cell. What is recorded for it
runs through, leaves everything else and the formats of the cell, and puts the value and the formula of
the cell back, unless it held a constant with an equals sign at its start and the text was entered as a
formula: then that constant comes back as a formula. -/
theorem leadsBack_entered_iff {actions : List Action} {ed₀ ed : Editor}
    (hreach : runActions actions ed₀ .new = .ok (ed, w)) {c : Command}
    (hdecode : Operation.decode c = .ok op) (hop : op = .setValue a text ∨ op = .setFormula a text)
    (h : w.NamesCell a i s p) (limit : Option Nat) :
    ∃ inverse w₁ cell,
      (op.perform Workbook.host limit).run w = (.ok inverse, w₁) ∧
      LeadsBack limit inverse w₁ (w.withSheet i (s.setCell p cell)) ∧
      (cell.bold = (s.cells.get p).bold ∧ cell.fill = (s.cells.get p).fill) ∧
      ((cell.value = (s.cells.get p).value ∧ cell.formula = (s.cells.get p).formula) ↔
        ¬op.Misreads (s.cells.get p)) ∧
      (op.Misreads (s.cells.get p) →
        cell.value = "" ∧ cell.formula = some (s.cells.get p).value) := by
  have hw : w.Valid := valid_of_runActions Workbook.valid_new hreach
  have hnormal := hw.cells_normal s (List.mem_of_getElem? h.sheet_eq) p
  have ha : a.WellFormed := by
    refine Operation.wellFormed_of_decode hdecode ?_
    rcases hop with rfl | rfl <;> rfl
  obtain ⟨inverse, w₁, cell, hperform, hback, hcell⟩ := leadsBack_entered hop ha h hnormal
  refine ⟨inverse, w₁, cell, hperform, hback, ?_⟩
  by_cases hmis : op.Misreads (s.cells.get p)
  · -- an empty constant does not start with an equals sign, so the value is another one
    obtain ⟨hformula, hvalue⟩ := hmis.head?_eq
    rw [if_pos hmis, Cell.withEntry, if_pos hvalue] at hcell
    subst hcell
    simp [hmis, hformula]
  · rw [if_neg hmis] at hcell
    subst hcell
    simp [hmis]

end

/-- A workbook with a constant in its first cell that looks like a formula. -/
def Workbook.textConstant : Workbook where
  sheets := [.withFirstCell "Sheet1" "=x"]

/-- The first cell of a sheet. -/
def firstCell : Position :=
  ⟨1, 1, one_mem_rows, one_mem_columns⟩

/-- A reply leads from a new workbook there. -/
theorem runActions_textConstant :
    runActions [.turn "SET_VALUE|A1|=x"] {} .new =
      .ok ({ history := History.new.push [.plain .setValue ["A1", ""]] }, .textConstant) := by
  decide +kernel

theorem namesCell_textConstant :
    Workbook.textConstant.NamesCell ⟨none, "A1"⟩ 0 (.withFirstCell "Sheet1" "=x") firstCell where
  names := ⟨.ofCorners firstCell firstCell, ⟨rfl, rfl, rfl⟩, by decide, rfl⟩

/-- A text is entered in place of such a constant. -/
theorem leadsBack_entered_iff_textConstant :
    ∃ inverse w₁ cell,
      ((Operation.setFormula ⟨none, "A1"⟩ "y").perform Workbook.host none).run .textConstant =
        (.ok inverse, w₁) ∧
      LeadsBack none inverse w₁ (Workbook.textConstant.withSheet 0
        ((Sheet.withFirstCell "Sheet1" "=x").setCell firstCell cell)) ∧
      (cell.bold = ((Sheet.withFirstCell "Sheet1" "=x").cells.get firstCell).bold ∧
        cell.fill = ((Sheet.withFirstCell "Sheet1" "=x").cells.get firstCell).fill) ∧
      ((cell.value = ((Sheet.withFirstCell "Sheet1" "=x").cells.get firstCell).value ∧
          cell.formula = ((Sheet.withFirstCell "Sheet1" "=x").cells.get firstCell).formula) ↔
        ¬(Operation.setFormula ⟨none, "A1"⟩ "y").Misreads
          ((Sheet.withFirstCell "Sheet1" "=x").cells.get firstCell)) ∧
      ((Operation.setFormula ⟨none, "A1"⟩ "y").Misreads
          ((Sheet.withFirstCell "Sheet1" "=x").cells.get firstCell) →
        cell.value = "" ∧
          cell.formula = some ((Sheet.withFirstCell "Sheet1" "=x").cells.get firstCell).value) :=
  have hdecode : Operation.decode (.plain .setFormula ["A1", "y"]) =
      .ok (.setFormula ⟨none, "A1"⟩ "y") := by
    decide +kernel
  leadsBack_entered_iff runActions_textConstant hdecode (Or.inr rfl) namesCell_textConstant none

/-- The constant is a formula after a text was entered in its place and that was undone. -/
theorem undo_setFormula_textConstant :
    ((runActions [.turn "SET_VALUE|A1|=x"] {} .new).map
        fun r => r.2.sheets.map (·.cells.get firstCell)) =
      .ok [{ value := "=x" }] ∧
    ((runActions [.turn "SET_VALUE|A1|=x", .turn "SET_FORMULA|A1|y", .undo] {} .new).map
        fun r => r.2.sheets.map (·.cells.get firstCell)) =
      .ok [{ formula := some "=x" }] := by
  constructor <;> decide +kernel

end SheetScript
