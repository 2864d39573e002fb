import SheetScript.Proofs.Contents
import SheetScript.Proofs.RowMacros
import SheetScript.Proofs.Writes

/-!
# Putting a block back

The inverse of a copy clears the target and enters its old cells again, one after another. A cell whose
contents no user could have typed comes back as another one.

- `Cell.reentered`: what a cell becomes when its contents are entered again.
- `Enters.restoreCell`: the commands for one cell.
- `Sheet.reenterBlock`, `runsThrough_restoreBlock`: the commands for a block.
- `Sheet.restoreRow`, `runsThrough_copyInverse`: the commands for a row, which are only there if the
  row had no more used cells than the limit.
-/

namespace SheetScript

open Grid

/-! ## Entering a cell again -/

namespace Cell

/-- What a cell becomes when its contents are entered again: a formula that does not start with an
equals sign becomes a constant, and a formula has no value of its own. -/
def reentered (c : Cell) : Cell :=
  match c.formula with
  | some f => c.withEntry f
  | none => c

@[simp] theorem reentered_blank : blank.reentered = blank := rfl

/-- Entering a cell once more changes nothing. -/
@[simp] theorem reentered_reentered (c : Cell) : c.reentered.reentered = c.reentered := by
  obtain ⟨value, formula, bold, fill⟩ := c
  cases formula with
  | none => rfl
  | some f =>
    by_cases hf : f.toList.head? = some '='
    · simp [reentered, withEntry, hf]
    · simp [reentered, withEntry, withValue, hf]

/-- The cells that come back as they were. -/
theorem reentered_eq_self_iff {c : Cell} :
    c.reentered = c ↔ ∀ f ∈ c.formula, c.value = "" ∧ f.toList.head? = some '=' := by
  obtain ⟨value, formula, bold, fill⟩ := c
  cases formula with
  | none => simp [reentered]
  | some f =>
    by_cases hf : f.toList.head? = some '='
    · simp [reentered, withEntry, hf, eq_comm]
    · simp [reentered, withEntry, withValue, hf]

end Cell

/-- The commands `cs` take the cell at `p`, where it is named by `a`, from `c` to `d` and change nothing
else. -/
def Enters (limit : Option Nat) (cs : List Command) (a : Address) (p : Position) (c d : Cell) : Prop :=
  ∀ (w : Workbook) (i : Nat) (s : Sheet), w.NamesCell a i s p → s.cells.get p = c →
    ∃ inverse, RunsThrough Workbook.host limit cs w inverse (w.withSheet i (s.setCell p d))

namespace Enters

variable {limit : Option Nat} {cs ds : List Command} {a : Address} {p : Position} {c d e : Cell}

theorem nil : Enters limit [] a p c c := by
  rintro w i s hs rfl
  obtain ⟨b, hb, -, -⟩ := hs.names
  rw [Sheet.setCell_self, Workbook.withSheet_self hb.sheet_eq]
  exact ⟨[], .nil w⟩

/-- Commands that enter one thing after another into a cell. -/
theorem append (h : Enters limit cs a p c d) (h' : Enters limit ds a p d e) :
    Enters limit (cs ++ ds) a p c e := by
  intro w i s hs hc
  obtain ⟨inverse, hrun⟩ := h w i s hs hc
  obtain ⟨inverse', hrun'⟩ := h' _ _ _ (hs.withSheet (Sheet.name_setCell s p d)) (by simp)
  simp only [Workbook.withSheet_withSheet, Sheet.setCell_setCell] at hrun'
  exact ⟨_, hrun.append hrun'⟩

/-- A single command that is read as what it stands for and makes one change. -/
theorem single {verb : Verb} {arg : String} {op : Operation} {f : Cell → Cell}
    (hop : Operation.decode (.plain verb [a.text, arg]) = .ok op)
    (hrun : ∀ (w : Workbook) (i : Nat) (s : Sheet), w.NamesCell a i s p →
      ∃ inverse, (op.perform Workbook.host limit).run w =
        (.ok inverse, w.withSheet i (s.setCell p (f (s.cells.get p))))) :
    Enters limit [.plain verb [a.text, arg]] a p c (f c) := by
  rintro w i s hs rfl
  obtain ⟨inverse, hperform⟩ := hrun w i s hs
  exact ⟨inverse, .single ⟨op, hop, hperform⟩⟩

section

variable (ha : a.WellFormed)

include ha

theorem setValue (v : String) : Enters limit [.plain .setValue [a.text, v]] a p c (c.withValue v) :=
  single (Operation.decode_setValue ha v) fun _ _ _ hs => ⟨_, perform_setValue hs limit v⟩

theorem setFormula (f : String) :
    Enters limit [.plain .setFormula [a.text, f]] a p c (c.withEntry f) :=
  single (Operation.decode_setFormula ha f) fun _ _ _ hs => ⟨_, perform_setFormula hs limit f⟩

/-- A flag is entered as its text. -/
theorem formatBold (bold : Bool) :
    Enters limit [.plain .formatBold [a.text, flagText bold]] a p c (c.withBold bold) :=
  single (Operation.decode_formatBold ha bold)
    fun _ _ _ hs => ⟨_, perform_formatBold hs limit bold⟩

theorem formatFill (color : String) :
    Enters limit [.plain .formatFill [a.text, color]] a p c (c.withFill color) :=
  single (Operation.decode_formatFill ha color)
    fun _ _ _ hs => ⟨_, perform_formatFill hs limit color⟩

/-! The parts of `restoreCell` are left out where a blank cell has them already. -/

/-- The flag of a cell is put back if it is set, and a cleared cell has none. -/
theorem restoreBold {bold : Bool} (hc : c.bold = false) :
    Enters limit (if bold then [.plain .formatBold [a.text, "true"]] else []) a p c
      (c.withBold bold) := by
  cases bold with
  | true => exact formatBold ha true
  | false =>
    have hsame : c.withBold false = c := by rw [Cell.withBold, ← hc]
    rw [hsame]
    exact nil

/-- So is its fill. -/
theorem restoreFill {fill : String} (hc : c.fill = "") :
    Enters limit (if fill = "" then [] else [.plain .formatFill [a.text, fill]]) a p c
      (c.withFill fill) := by
  by_cases hfill : fill = ""
  · have hsame : c.withFill fill = c := by rw [Cell.withFill, hfill, ← hc]
    rw [if_pos hfill, hsame]
    exact nil
  · rw [if_neg hfill]
    exact formatFill ha fill

theorem restoreValue {value : String} :
    Enters limit (if value = "" then [] else [.plain .setValue [a.text, value]]) a p .blank
      { value } := by
  by_cases hvalue : value = ""
  · rw [if_pos hvalue, hvalue]
    exact nil
  · rw [if_neg hvalue]
    exact setValue ha value

/-- The commands that put a cell back onto a blank one enter it again. -/
theorem restoreCell (c : Cell) : Enters limit (restoreCell ⟨a, c⟩) a p .blank c.reentered := by
  obtain ⟨value, formula, bold, fill⟩ := c
  simp only [SheetScript.restoreCell]
  cases formula with
  | none => exact ((restoreValue ha).append (restoreBold ha rfl)).append (restoreFill ha rfl)
  | some f =>
    obtain ⟨hbold, hfill⟩ := Cell.withEntry_formats f .blank
    have hentered : ((Cell.blank.withEntry f).withBold bold).withFill fill =
        Cell.reentered ⟨value, some f, bold, fill⟩ := by
      by_cases hf : f.toList.head? = some '='
      · simp [Cell.reentered, Cell.withEntry, Cell.withBold, Cell.withFill, Cell.blank, hf]
      · simp [Cell.reentered, Cell.withEntry, Cell.withBold, Cell.withFill, Cell.withValue, hf]
    rw [← hentered]
    exact ((setFormula ha f).append (restoreBold ha hbold)).append (restoreFill ha hfill)

end

end Enters

/-! ## Entering a block again -/

section

variable (limit : Option Nat) {w : Workbook} {i : Nat} {s : Sheet} {a : Address} {b : Block}

/-- The commands that put several cells back onto blank ones enter each of them again. -/
theorem runsThrough_restoreCells {entries : List (Position × Cell)} (ha : a.WellFormed)
    (hs : w.Names a i s b) (hkeys : (entries.map Prod.fst).Nodup)
    (hblank : ∀ e ∈ entries, s.cells.get e.1 = .blank) :
    ∃ inverse, RunsThrough Workbook.host limit
      ((entries.map fun e => PlacedCell.mk (a.withReference e.1.text) e.2).flatMap restoreCell) w inverse
      (w.withSheet i
        { s with cells := s.cells.setAll (entries.map fun e => (e.1, e.2.reentered)) }) := by
  induction entries generalizing w s with
  | nil =>
    exact ⟨[], by simpa [Cells.setAll, Workbook.withSheet_self hs.sheet_eq] using RunsThrough.nil w⟩
  | cons e entries ih =>
    rw [List.map_cons, List.nodup_cons] at hkeys
    have hcell : Enters limit (restoreCell ⟨a.withReference e.1.text, e.2⟩) _ e.1 .blank e.2.reentered :=
      Enters.restoreCell (ha.withReference e.1) e.2
    obtain ⟨inverse, hfirst⟩ :=
      hcell w i s (hs.namesCell_withReference e.1) (hblank e List.mem_cons_self)
    have hnext := hs.withSheet (Sheet.name_setCell s e.1 e.2.reentered)
    -- the cells that follow are at other positions, so they are still blank
    obtain ⟨inverse', hrest⟩ := ih hnext hkeys.2 fun e' he' => by
      have hne : e'.1 ≠ e.1 := fun heq => hkeys.1 (heq ▸ List.mem_map_of_mem he')
      rw [Sheet.get_setCell, if_neg hne]
      exact hblank e' (List.mem_cons_of_mem _ he')
    simp only [Workbook.withSheet_withSheet] at hrest
    rw [List.map_cons, List.flatMap_cons]
    exact ⟨_, hfirst.append hrest⟩

end

namespace Sheet

/-- Clearing blanks a block and nothing else. -/
theorem get_clearBlock (s : Sheet) (b : Block) (p : Position) :
    (s.clearBlock b).cells.get p = if b.contains p then .blank else s.cells.get p := by
  rw [clearBlock, Cells.get_keep]
  cases b.contains p <;> rfl

/-- A sheet with the cells that `old` has in a block entered again in that block. -/
def reenterBlock (s : Sheet) (b : Block) (old : Cells) : Sheet :=
  let entries := (old.within b).map fun e => (e.1, e.2.reentered)
  { s with cells := (s.clearBlock b).cells.setAll entries }

/-- A block that was entered again has the former cells as they come back. -/
theorem get_reenterBlock (s : Sheet) (b : Block) (old : Cells) (p : Position) :
    (s.reenterBlock b old).cells.get p =
      if b.contains p then (old.get p).reentered else s.cells.get p := by
  have hmem : ∀ {q c}, (q, c) ∈ old.within b ↔
      (old.get q = c ∧ c.isBlank = false) ∧ b.contains q = true := by
    intro q c
    rw [Cells.within, List.mem_filter, Cells.mem_toList]
  refine Cells.get_setAll_eq (fun c hc => ?_) fun habsent => ?_
  · obtain ⟨⟨q, d⟩, hd, heq⟩ := List.mem_map.mp hc
    cases heq
    obtain ⟨⟨rfl, -⟩, hin⟩ := hmem.mp hd
    rw [if_pos hin]
  · rw [get_clearBlock]
    split
    next hin =>
      -- a used cell of the block would have been entered again
      have hblank : old.get p = .blank := by
        by_contra hne
        have hused := Cell.isBlank_eq_false_iff.mpr hne
        exact habsent _ (List.mem_map.mpr ⟨(p, old.get p), hmem.mpr ⟨⟨rfl, hused⟩, hin⟩, rfl⟩)
      rw [hblank, Cell.reentered_blank]
    next => rfl

end Sheet

/-- A block is put back by clearing it and entering its cells again. -/
theorem runsThrough_restoreBlock (limit : Option Nat) {w : Workbook} {i : Nat} {s : Sheet}
    {a : Address} {b : Block} (ha : a.WellFormed) (hs : w.Names a i s b) (old : Cells) :
    ∃ inverse, RunsThrough Workbook.host limit
      (.plain .clear [a.text] ::
        ((old.within b).map fun e => ⟨a.withReference e.1.text, e.2⟩).flatMap restoreCell) w inverse
      (w.withSheet i (s.reenterBlock b old)) := by
  have hclear : (Command.plain .clear [a.text]).Runs Workbook.host limit w []
      (w.withSheet i (s.clearBlock b)) := by
    refine ⟨_, Operation.decode_clear ha, ?_⟩
    simp only [Operation.perform, Workbook.host, run_act_bind, hs.clear]
    rfl
  have hkeys : ((old.within b).map Prod.fst).Nodup :=
    old.nodup_keys_toList.sublist (List.filter_sublist.map Prod.fst)
  have hblank : ∀ e ∈ old.within b, (s.clearBlock b).cells.get e.1 = .blank := by
    intro e he
    rw [Sheet.get_clearBlock, if_pos (List.mem_filter.mp he).2]
  have hnext : (w.withSheet i (s.clearBlock b)).Names a i (s.clearBlock b) b := hs.withSheet rfl
  obtain ⟨inverse, hcells⟩ := runsThrough_restoreCells limit ha hnext hkeys hblank
  rw [Workbook.withSheet_withSheet] at hcells
  exact ⟨_, .cons hclear hcells⟩

/-! ## Entering a row again -/

namespace Sheet

variable {s : Sheet} {r : Nat}

/-- A sheet with the cells that `old` has in a row entered again in that row. -/
def restoreRow (s : Sheet) (hr : 1 ≤ r ∧ r ≤ maxRows) (old : Cells) : Sheet :=
  s.reenterBlock (.row r hr) old

@[simp] theorem name_restoreRow (s : Sheet) (hr : 1 ≤ r ∧ r ≤ maxRows) (old : Cells) :
    (s.restoreRow hr old).name = s.name := rfl

@[simp] theorem charts_restoreRow (s : Sheet) (hr : 1 ≤ r ∧ r ≤ maxRows) (old : Cells) :
    (s.restoreRow hr old).charts = s.charts := rfl

/-- A row that is put back holds its old cells, entered again. -/
theorem getAt_restoreRow (s : Sheet) (hr : 1 ≤ r ∧ r ≤ maxRows) (old : Cells) (row col : Nat) :
    (s.restoreRow hr old).cells.getAt row col =
      if row = r then (old.getAt row col).reentered else s.cells.getAt row col := by
  cases hat : Position.at? row col with
  | none =>
    have hout := Position.at?_eq_none_iff.mp hat
    rw [Cells.getAt_of_not_within _ hout, Cells.getAt_of_not_within _ hout,
      Cells.getAt_of_not_within _ hout, Cell.reentered_blank, ite_self]
  | some q =>
    obtain ⟨rfl, rfl⟩ := Position.at?_eq_some_iff.mp hat
    rw [Cells.getAt_row_col, Cells.getAt_row_col, Cells.getAt_row_col, restoreRow, get_reenterBlock]
    simp only [Block.contains_row]

/-- A row that is deleted anyway need not be put back. -/
theorem deleteRow_restoreRow (s : Sheet) (hr : 1 ≤ r ∧ r ≤ maxRows) (old : Cells) :
    (s.restoreRow hr old).deleteRow hr = s.deleteRow hr := by
  have hcells : ((s.restoreRow hr old).deleteRow hr).cells = (s.deleteRow hr).cells := by
    refine Cells.ext_getAt fun row col _ _ => ?_
    simp only [getAt_deleteRow, getAt_restoreRow]
    split_ifs <;> first | rfl | omega
  rw [← withCells_eq (show ((s.restoreRow hr old).deleteRow hr).name = s.name by simp)
    (show ((s.restoreRow hr old).deleteRow hr).charts = s.charts by simp), hcells]
  exact withCells_eq (by simp) (by simp)

end Sheet

/-! ## The inverse of a copy -/

/-- Whether a row is put back when a copy onto it is undone: it had no more used cells than the
limit. -/
def Cells.Restorable (limit : Option Nat) (old : Cells) (r : Nat) : Prop :=
  ∃ n ∈ limit, (rowContents (old.getAt r)).length ≤ n

/-- The inverse of a copy onto a row puts the row back if it is restorable, and else there is none. -/
theorem runsThrough_copyInverse (limit : Option Nat) {w : Workbook} {s : Sheet} {r : Nat}
    (hs : w.activeSheet? = some s) (hr : 1 ≤ r ∧ r ≤ maxRows) (old : Cells) :
    ∃ inverse s', RunsThrough Workbook.host limit
        (copyInverse limit ⟨none, RowMacro.wholeRow r⟩ (old.placedRow hr)) w inverse
        (w.withSheet w.activeIndex s') ∧
      (old.Restorable limit r → s' = s.restoreRow hr old) ∧ (¬old.Restorable limit r → s' = s) := by
  have hlength : (old.placedRow hr).length = (rowContents (old.getAt r)).length := by
    rw [← (old.map_snd_within_row hr).length_eq, Cells.placedRow, List.length_map, List.length_map]
  have hnone : RunsThrough Workbook.host limit [] w [] (w.withSheet w.activeIndex s) := by
    rw [Workbook.withSheet_self hs]
    exact .nil w
  cases limit with
  | none => exact ⟨[], s, hnone, fun ⟨n, hn, _⟩ => absurd hn (by simp), fun _ => rfl⟩
  | some n =>
    rw [copyInverse, restoreBlock, hlength]
    by_cases hn : n < (rowContents (old.getAt r)).length
    · -- too many cells for the limit, so nothing was recorded
      rw [if_pos hn]
      refine ⟨[], s, hnone, ?_, fun _ => rfl⟩
      rintro ⟨m, hm, hle⟩
      cases hm
      omega
    · rw [if_neg hn]
      have ha : (⟨none, RowMacro.wholeRow r⟩ : Address).WellFormed := by
        rw [RowMacro.wholeRow_eq_text hr]
        exact Address.wellFormed_lines _
      have hrow := Workbook.names_active hs (RowMacro.parse?_wholeRow hr)
      obtain ⟨inverse, hrun⟩ := runsThrough_restoreBlock (some n) ha hrow old
      exact ⟨inverse, s.restoreRow hr old, hrun, fun _ => rfl,
        fun h => absurd ⟨n, rfl, Nat.le_of_not_lt hn⟩ h⟩

end SheetScript
