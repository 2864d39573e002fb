import SheetScript.Proofs.Alike
import SheetScript.Proofs.Changes
import SheetScript.Proofs.Clean

/-!
# Valid workbooks

A new workbook is valid, and stays so whatever is done to it: replies, undos, batches and single calls
come to an end, refused or not, and leave a valid workbook. Only a sort that finds its keys in no order
stops everything.

- `Sheet.ChartsDistinct`, `Workbook.Valid`: the invariant.
- `Change.valid`: every change keeps it.
- `Action`, `runActions`: what can be done with a workbook and an editor, once and any number of times.
- `runActions_valid`: all that can be done keeps it.
-/

namespace SheetScript

open Grid

/-! ## The invariant -/

/-- Whether no two charts of a sheet have the same name, whether in upper or in lower case. -/
def Sheet.ChartsDistinct (s : Sheet) : Prop :=
  s.charts.Pairwise fun c d => Text.sameIgnoringCase c.name d.name = false

/-- A chart whose name is not taken can be added. -/
theorem Sheet.ChartsDistinct.concat {s : Sheet} {c : Chart} (h : s.ChartsDistinct)
    (hfree : s.hasChart c.name = false) :
    ({ s with charts := s.charts ++ [c] } : Sheet).ChartsDistinct := by
  refine List.pairwise_append.mpr ⟨h, List.pairwise_singleton _ _, ?_⟩
  intro d hd e he
  rw [List.mem_singleton.mp he]
  simpa using List.any_eq_false.mp hfree d hd

/-- The cells of a collection that are stored are no blank ones and lie on the grid. -/
theorem Cells.stored (cells : Cells) {e : Position × Cell} (he : e ∈ cells.toList) :
    e.2.isBlank = false ∧ (1 ≤ e.1.row ∧ e.1.row ≤ maxRows) ∧
      (1 ≤ e.1.col ∧ e.1.col ≤ maxColumns) :=
  ⟨(mem_toList.mp he).2, e.1.row_mem, e.1.col_mem⟩

namespace Workbook

/-- What holds of a workbook whatever was done to it. -/
structure Valid (w : Workbook) : Prop where
  /-- There is a sheet, and the active one exists. -/
  active_lt : w.active < w.sheets.length
  names_distinct : w.NamesDistinct
  /-- No blank cell is stored, and none outside the grid. -/
  cells_stored : ∀ s ∈ w.sheets, ∀ e ∈ s.cells.toList, e.2.isBlank = false ∧
    (1 ≤ e.1.row ∧ e.1.row ≤ maxRows) ∧ (1 ≤ e.1.col ∧ e.1.col ≤ maxColumns)
  cells_normal : ∀ s ∈ w.sheets, s.cells.All Cell.Normal
  charts_distinct : ∀ s ∈ w.sheets, s.ChartsDistinct

variable {w w' : Workbook} {i : Nat} {s t : Sheet}

/-- That stored cells are as they should be holds by the way they are stored. -/
theorem Valid.of_sheets (hactive : w.active < w.sheets.length) (hnames : w.NamesDistinct)
    (hsheets : ∀ s ∈ w.sheets, s.cells.All Cell.Normal ∧ s.ChartsDistinct) : w.Valid where
  active_lt := hactive
  names_distinct := hnames
  cells_stored := fun s _ _ he => s.cells.stored he
  cells_normal := fun s hs => (hsheets s hs).1
  charts_distinct := fun s hs => (hsheets s hs).2

theorem valid_new : new.Valid := by
  refine .of_sheets (by decide) (by decide) ?_
  intro s hs
  obtain rfl : s = { name := firstSheetName } := List.mem_singleton.mp hs
  exact ⟨.empty .blank, .nil⟩

namespace Valid

theorem sheets_ne_nil (h : w.Valid) : w.sheets ≠ [] :=
  List.ne_nil_of_length_pos (Nat.zero_lt_of_lt h.active_lt)

/-- Calls make normal cells of normal ones. -/
theorem normal_of_makes (h : w.Valid) {c : Cell} (hc : w.Makes c) : c.Normal := by
  induction hc with
  | blank => exact .blank
  | old hs p => exact h.cells_normal _ hs p
  | value _ text _ => exact .withValue text _
  | entry _ text _ => exact .withEntry text _
  | bold _ bold ih => exact ih.withBold bold
  | fill _ color ih => exact ih.withFill color

/-- A sheet may be replaced by one that is as it should be, if the names stay distinct. -/
theorem withSheet (h : w.Valid) (hnames : (w.withSheet i t).NamesDistinct)
    (hcells : t.cells.All Cell.Normal) (hcharts : t.ChartsDistinct) : (w.withSheet i t).Valid := by
  refine .of_sheets ?_ hnames ?_
  · rw [length_sheets_withSheet]
    exact h.active_lt
  · intro u hu
    rcases List.mem_or_eq_of_mem_set hu with hu | rfl
    · exact ⟨h.cells_normal u hu, h.charts_distinct u hu⟩
    · exact ⟨hcells, hcharts⟩

/-- A sheet may be replaced by another one of its name. -/
theorem withSameName (h : w.Valid) (hs : w.sheets[i]? = some s) (hname : t.name = s.name)
    (hcells : t.cells.All Cell.Normal) (hcharts : t.ChartsDistinct) : (w.withSheet i t).Valid :=
  h.withSheet (h.names_distinct.withSameName hs hname) hcells hcharts

end Valid

/-- No change makes a valid workbook invalid. -/
theorem Change.valid (h : w.Change w') (hw : w.Valid) : w'.Valid := by
  have hsheet : ∀ {i : Nat} {s : Sheet}, w.sheets[i]? = some s →
      s.cells.All Cell.Normal ∧ s.ChartsDistinct := fun hs =>
    ⟨hw.cells_normal _ (List.mem_of_getElem? hs), hw.charts_distinct _ (List.mem_of_getElem? hs)⟩
  have hsheets : ∀ s ∈ w.sheets, s.cells.All Cell.Normal ∧ s.ChartsDistinct := fun s hs =>
    ⟨hw.cells_normal s hs, hw.charts_distinct s hs⟩
  cases h with
  | nothing => exact hw
  | select a => exact .of_sheets hw.active_lt hw.names_distinct hsheets
  | cells hs hcells =>
    exact hw.withSameName hs rfl (fun p => hw.normal_of_makes (hcells p)) (hsheet hs).2
  | addChart hs hfree =>
    exact hw.withSameName hs rfl (hsheet hs).1 ((hsheet hs).2.concat hfree)
  | deleteChart hs name =>
    exact hw.withSameName hs rfl (hsheet hs).1 ((hsheet hs).2.sublist List.eraseP_sublist)
  | addSheet hfree =>
    refine .of_sheets ?_ (hw.names_distinct.append hfree) ?_
    · rw [List.length_append]
      exact Nat.lt_add_right _ hw.active_lt
    · intro s hs
      rcases List.mem_append.mp hs with hs | hs
      · exact hsheets s hs
      · rw [List.mem_singleton.mp hs]
        exact ⟨.empty .blank, .nil⟩
  | renameSheet hs hfree =>
    refine hw.withSheet ?_ (hsheet hs).1 (hsheet hs).2
    exact hw.names_distinct.withSheet (hw.names_distinct.any_sheetIndex?_eq_false_iff.mp hfree)
  | deleteSheet hi hactive =>
    refine .of_sheets ?_ (hw.names_distinct.sublist (List.eraseIdx_sublist _ _)) ?_
    · rw [List.length_eraseIdx_of_lt hi]
      exact hactive
    · intro s hs
      exact hsheets s (List.mem_of_mem_eraseIdx hs)
  | activate hi => exact .of_sheets hi hw.names_distinct hsheets

theorem answers_valid : host.Answers (· = .disorder) Valid :=
  answers_of_change (fun _ h => h.sheets_ne_nil) fun _ _ hw h => h.valid hw

end Workbook

/-! ## Everything that can be done -/

/-- What can be done with a workbook and an editor. -/
inductive Action where
  /-- Take a reply from its text to an executed batch. -/
  | turn (text : String)
  | undo
  | execute (batch : List Command)
  /-- A call on the workbook itself. -/
  | call (request : Request)
deriving DecidableEq, Repr

/-- The editor and the workbook after an action, whatever it reported. -/
def Action.run : Action → Editor → Workbook → Except Stop (Editor × Workbook)
  | turn text, ed, w => (ed.runTurn Workbook.host text w).map fun (_, ed, w) => (ed, w)
  | undo, ed, w => (ed.undo Workbook.host w).map fun (_, ed, w) => (ed, w)
  | execute batch, ed, w => (ed.execute Workbook.host batch w).map fun (_, ed, w) => (ed, w)
  | call request, ed, w =>
    match (Workbook.host.answer request).run w with
    | (.error (.stop why), _) => .error why
    | (_, w) => .ok (ed, w)

/-- The editor and the workbook after some actions. -/
def runActions : List Action → Editor → Workbook → Except Stop (Editor × Workbook)
  | [], ed, w => .ok (ed, w)
  | action :: actions, ed, w => do
    let (ed, w) ← action.run ed w
    runActions actions ed w

variable {w : Workbook}

/-- An action on a valid workbook comes to an end and leaves it valid, unless a sort stops everything. -/
theorem Action.run_valid (action : Action) (ed : Editor) (hw : w.Valid) :
    (∃ ed' w', action.run ed w = .ok (ed', w') ∧ w'.Valid) ∨ action.run ed w = .error .disorder := by
  cases action with
  | turn text =>
    rcases ed.runTurn_answers Workbook.answers_valid text hw with
      ⟨turn, ed', w', hrun, hw'⟩ | ⟨_, hrun, rfl⟩
    · exact Or.inl ⟨ed', w', by rw [run, hrun]; rfl, hw'⟩
    · exact Or.inr (by rw [run, hrun]; rfl)
  | undo =>
    rcases ed.undo_answers Workbook.answers_valid hw with
      ⟨outcome, ed', w', hrun, hw'⟩ | ⟨_, hrun, rfl⟩
    · exact Or.inl ⟨ed', w', by rw [run, hrun]; rfl, hw'⟩
    · exact Or.inr (by rw [run, hrun]; rfl)
  | execute batch =>
    rcases ed.execute_answers Workbook.answers_valid batch hw with
      ⟨outcome, ed', w', hrun, hw'⟩ | ⟨_, hrun, rfl⟩
    · exact Or.inl ⟨ed', w', by rw [run, hrun]; rfl, hw'⟩
    · exact Or.inr (by rw [run, hrun]; rfl)
  | call request =>
    rcases Workbook.answers_valid.run_cases request hw with
      ⟨a, w', hrun, hw'⟩ | ⟨e, w', hrun, hw'⟩ | ⟨_, w', hrun, rfl⟩
    · exact Or.inl ⟨ed, w', by rw [run, hrun], hw'⟩
    · exact Or.inl ⟨ed, w', by rw [run, hrun], hw'⟩
    · exact Or.inr (by rw [run, hrun])

/-- Some actions on a valid workbook come to an end and leave it valid, unless a sort stops everything on
the way. -/
theorem runActions_cases (actions : List Action) (ed : Editor) (hw : w.Valid) :
    (∃ ed' w', runActions actions ed w = .ok (ed', w') ∧ w'.Valid) ∨
      runActions actions ed w = .error .disorder := by
  induction actions generalizing ed w with
  | nil => exact Or.inl ⟨ed, w, rfl, hw⟩
  | cons action actions ih =>
    rcases action.run_valid ed hw with ⟨ed₁, w₁, hrun, hw₁⟩ | hrun
    · rw [runActions, hrun]
      exact ih ed₁ hw₁
    · rw [runActions, hrun]
      exact Or.inr rfl

/-- What some actions make of a valid workbook is valid. -/
theorem valid_of_runActions {actions : List Action} {ed ed' : Editor} {w' : Workbook} (hw : w.Valid)
    (h : runActions actions ed w = .ok (ed', w')) : w'.Valid := by
  rcases runActions_cases actions ed hw with ⟨ed₁, w₁, hrun, hw₁⟩ | hstop
  · cases hrun.symm.trans h
    exact hw₁
  · cases hstop.symm.trans h

/-- A new workbook is valid, and after any actions on a valid workbook it is valid still, unless a sort
stops everything on the way. -/
theorem runActions_valid :
    Workbook.new.Valid ∧ ∀ (actions : List Action) (ed : Editor) {w : Workbook}, w.Valid →
      (∃ ed' w', runActions actions ed w = .ok (ed', w') ∧ w'.Valid) ∨
        runActions actions ed w = .error .disorder :=
  ⟨Workbook.valid_new, fun actions ed _ hw => runActions_cases actions ed hw⟩

/-- A batch of which one command is refused, an undo, and a call. -/
def threeActions : List Action :=
  [.execute [.plain .createSheet ["Data"], .plain .deleteSheet ["Other"]], .undo,
    .call (.addChart "bar" ⟨none, "A1:B2"⟩ "")]

theorem runActions_valid_threeActions :
    ∃ ed' w', runActions threeActions {} .new = .ok (ed', w') ∧ w'.Valid := by
  have hrun : (runActions threeActions {} .new).isOk = true := by decide +kernel
  rcases runActions_valid.2 threeActions {} runActions_valid.1 with hvalid | hstop
  · exact hvalid
  · rw [hstop] at hrun
    cases hrun

end SheetScript
