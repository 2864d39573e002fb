import SheetScript.Proofs.Batches
import SheetScript.Proofs.Cells
import SheetScript.Proofs.Rereading
import SheetScript.Proofs.Workbooks

/-!
# Commands that write to cells

A command that writes to an address changes the cells of its block alike, and records what the first of
them was. The recorded commands carry the address as text; they are read back as writes to the same
address.

- `Sheet.setCell`: one cell of a sheet replaced.
- `Workbook.NamesCell`: an address names one cell of a sheet.
- `CellWrite`, `Operation.cellWrite?`: what the operations that write to cells have in common.
- `perform_write`, `perform_writeCell`: what they do and record, on a block and on one cell.
- `perform_of_resolve_error`: they refuse an address that names nothing.
- `decode_setValue` and the like, `decode_back`: the recorded commands are read back.
- `wellFormed_of_decode`: an address that was read is read from its own text.
-/

namespace SheetScript

open Grid

/-! ## One cell -/

/-- A text that is entered leaves the formats of the cell. -/
theorem Cell.withEntry_formats (f : String) (c : Cell) :
    (c.withEntry f).bold = c.bold ∧ (c.withEntry f).fill = c.fill := by
  unfold Cell.withEntry
  split <;> exact ⟨rfl, rfl⟩

namespace Sheet

/-- A sheet with another cell at a position. -/
def setCell (s : Sheet) (p : Position) (c : Cell) : Sheet :=
  { s with cells := s.cells.set p c }

variable (s : Sheet) (p q : Position) (c d : Cell)

@[simp] theorem name_setCell : (s.setCell p c).name = s.name := rfl

@[simp] theorem charts_setCell : (s.setCell p c).charts = s.charts := rfl

/-- A cell that is put shows in its place only. -/
theorem get_setCell : (s.setCell p c).cells.get q = if q = p then c else s.cells.get q :=
  Cells.get_set s.cells p q c

@[simp] theorem get_setCell_self : (s.setCell p c).cells.get p = c :=
  Cells.get_set_self s.cells p c

@[simp] theorem setCell_setCell : (s.setCell p c).setCell p d = s.setCell p d := by
  have hcells : (s.cells.set p c).set p d = s.cells.set p d := by
    refine Cells.ext fun q => ?_
    simp only [Cells.get_set]
    split <;> rfl
  rw [setCell, setCell, setCell, hcells]

@[simp] theorem setCell_self : s.setCell p (s.cells.get p) = s := by
  have hcells : s.cells.set p (s.cells.get p) = s.cells := by
    refine Cells.ext fun q => ?_
    rw [Cells.get_set]
    split
    next h => rw [h]
    next => rfl
  rw [setCell, hcells]

end Sheet

namespace Workbook

variable {w : Workbook} {a : Address} {i : Nat} {s t : Sheet} {p : Position}

/-- In `w` the address `a` names the cell at `p` on the sheet `s`, which has the index `i`. -/
structure NamesCell (w : Workbook) (a : Address) (i : Nat) (s : Sheet) (p : Position) : Prop where
  names : ∃ b, w.Names a i s b ∧ b.size = 1 ∧ b.topLeft = p

/-- A block of one cell has that position only. -/
theorem positions_of_size_one {b : Block} (h : b.size = 1) : b.positions = [b.topLeft] := by
  have hone : b.height = 1 ∧ b.width = 1 := by
    rw [Block.size] at h
    exact ⟨Nat.eq_one_of_mul_eq_one_right h, Nat.eq_one_of_mul_eq_one_left h⟩
  have hat : Position.at? b.top b.left = some b.topLeft := Position.at?_eq_some_iff.mpr ⟨rfl, rfl⟩
  simp [Block.positions, hone, hat]

/-- An address that names a block of one cell names that cell. -/
theorem Names.namesCell {b : Block} (h : w.Names a i s b) (hb : b.size = 1) :
    w.NamesCell a i s b.topLeft :=
  ⟨b, h, hb, rfl⟩

namespace NamesCell

theorem withSheet (h : w.NamesCell a i s p) (hname : t.name = s.name) :
    (w.withSheet i t).NamesCell a i t p := by
  obtain ⟨b, hb, hp⟩ := h.names
  exact ⟨b, hb.withSheet hname, hp⟩

end NamesCell

/-- A cell of the sheet that an address is about, named by its position. -/
theorem Names.namesCell_withReference {b : Block} (h : w.Names a i s b) (p : Position) :
    w.NamesCell (a.withReference p.text) i s p := by
  refine ⟨_, ⟨h.indexOf?_eq, h.sheet_eq, Block.parse?_text p⟩, ?_, ?_⟩
  · simp [Block.size, Block.height, Block.width, Block.ofCorners]
  · exact Position.ext (Nat.min_self _) (Nat.min_self _)

end Workbook

/-! ## What the operations do and record -/

/-- What an operation does that writes to every cell of an address alike. -/
structure CellWrite where
  address : Address
  /-- What becomes of each cell. -/
  change : Cell → Cell
  /-- The command that is recorded if the first cell was this one. -/
  back : Cell → Command
  /-- What that command makes of a cell. -/
  restore : Cell → Cell → Cell

/-- The write that an operation makes, if it is one. -/
def Operation.cellWrite? : Operation → Option CellWrite
  | .setValue a v =>
    some {
      address := a
      change := .withValue v
      back := fun old => restoreContents a old.value old.shown
      restore := fun old =>
        if old.shown = old.value then .withValue old.value else .withEntry old.shown }
  | .setFormula a f =>
    some {
      address := a
      change := .withEntry f
      back := fun old => .plain .setFormula [a.text, old.shown]
      restore := fun old => .withEntry old.shown }
  | .formatBold a bold =>
    some {
      address := a
      change := .withBold bold
      back := fun old => .plain .formatBold [a.text, flagText old.bold]
      restore := fun old => .withBold old.bold }
  | .formatColor a color =>
    some {
      address := a
      change := .withFill color
      back := fun old => .plain .formatColor [a.text, old.fill]
      restore := fun old => .withFill old.fill }
  | .formatFill a color =>
    some {
      address := a
      change := .withFill color
      back := fun old => .plain .formatFill [a.text, old.fill]
      restore := fun old => .withFill old.fill }
  | _ => none

section

variable {w : Workbook} {a : Address} {i : Nat} {s : Sheet} {p : Position}

/-- A write to a block changes all its cells and records what its first cell was. -/
theorem perform_write {op : Operation} {write : CellWrite} (hop : op.cellWrite? = some write)
    {b : Block} (h : w.Names write.address i s b) (hsize : b.size ≤ Sheet.maxWrite)
    (limit : Option Nat) :
    (op.perform Workbook.host limit).run w =
      (.ok [write.back (s.cells.get b.topLeft)],
        w.withSheet i { s with cells := s.cells.update b.positions write.change }) := by
  have hvalue : w.value write.address = .ok (s.cells.get b.topLeft).value := by
    rw [Workbook.value, h.cellAt]
    rfl
  have hformula : w.formula write.address = .ok (s.cells.get b.topLeft).shown := by
    rw [Workbook.formula, h.cellAt]
    rfl
  have hbold : w.bold write.address = .ok (s.cells.get b.topLeft).bold := by
    rw [Workbook.bold, h.cellAt]
    rfl
  have hfill : w.fill write.address = .ok (s.cells.get b.topLeft).fill := by
    rw [Workbook.fill, h.cellAt]
    rfl
  have hwrite := h.write write.change hsize
  cases op with
  | setValue _ _ | setFormula _ _ | formatBold _ _ | formatColor _ _ | formatFill _ _ =>
    cases hop
    dsimp only at hvalue hformula hbold hfill hwrite
    simp only [Operation.perform, Workbook.host, run_ask_bind, run_act_bind, Workbook.setValue,
      Workbook.setFormula, Workbook.setBold, Workbook.setFill, hvalue, hformula, hbold, hfill, hwrite]
    rfl
  | _ => cases hop

/-- A write to one cell changes that cell alone. -/
theorem perform_writeCell {op : Operation} {write : CellWrite} (hop : op.cellWrite? = some write)
    (h : w.NamesCell write.address i s p) (limit : Option Nat) :
    (op.perform Workbook.host limit).run w =
      (.ok [write.back (s.cells.get p)],
        w.withSheet i (s.setCell p (write.change (s.cells.get p)))) := by
  obtain ⟨b, hb, hsize, rfl⟩ := h.names
  rw [perform_write hop hb (by rw [hsize]; decide), Workbook.positions_of_size_one hsize]
  rfl

/-- A value is written, and what the cell held is recorded. -/
theorem perform_setValue (h : w.NamesCell a i s p) (limit : Option Nat) (v : String) :
    ((Operation.setValue a v).perform Workbook.host limit).run w =
      (.ok [restoreContents a (s.cells.get p).value (s.cells.get p).shown],
        w.withSheet i (s.setCell p ((s.cells.get p).withValue v))) := by
  have hop : (Operation.setValue a v).cellWrite? = some _ := rfl
  exact perform_writeCell hop h limit

/-- A text is entered, and what the cell showed is recorded, to be entered again. -/
theorem perform_setFormula (h : w.NamesCell a i s p) (limit : Option Nat) (f : String) :
    ((Operation.setFormula a f).perform Workbook.host limit).run w =
      (.ok [.plain .setFormula [a.text, (s.cells.get p).shown]],
        w.withSheet i (s.setCell p ((s.cells.get p).withEntry f))) := by
  have hop : (Operation.setFormula a f).cellWrite? = some _ := rfl
  exact perform_writeCell hop h limit

/-- A cell is made bold or not, and its old flag is recorded. -/
theorem perform_formatBold (h : w.NamesCell a i s p) (limit : Option Nat) (bold : Bool) :
    ((Operation.formatBold a bold).perform Workbook.host limit).run w =
      (.ok [.plain .formatBold [a.text, flagText (s.cells.get p).bold]],
        w.withSheet i (s.setCell p ((s.cells.get p).withBold bold))) := by
  have hop : (Operation.formatBold a bold).cellWrite? = some _ := rfl
  exact perform_writeCell hop h limit

/-- A cell is filled, and its old fill is recorded. -/
theorem perform_formatFill (h : w.NamesCell a i s p) (limit : Option Nat) (color : String) :
    ((Operation.formatFill a color).perform Workbook.host limit).run w =
      (.ok [.plain .formatFill [a.text, (s.cells.get p).fill]],
        w.withSheet i (s.setCell p ((s.cells.get p).withFill color))) := by
  have hop : (Operation.formatFill a color).cellWrite? = some _ := rfl
  exact perform_writeCell hop h limit

/-- The address that an operation writes to, if it writes to every cell of it alike. -/
def Operation.target? : Operation → Option Address
  | .setValue a _ | .setFormula a _ | .formatBold a _ | .formatColor a _ | .formatFill a _ =>
    some a
  | _ => none

/-- The cell there is read first, so an address that names nothing is refused. -/
theorem perform_of_resolve_error {limit : Option Nat} {op : Operation} {e : HostError}
    (h : w.resolve a = .error e) (ha : op.target? = some a) :
    (op.perform Workbook.host limit).run w = (.error (.host (.error e)), w) := by
  have hread : w.cellAt a = .error (.error e) := by
    rw [Workbook.cellAt, h]
    rfl
  have hvalue : w.value a = .error (.error e) := by
    rw [Workbook.value, hread]
    rfl
  have hformula : w.formula a = .error (.error e) := by
    rw [Workbook.formula, hread]
    rfl
  have hbold : w.bold a = .error (.error e) := by
    rw [Workbook.bold, hread]
    rfl
  have hfill : w.fill a = .error (.error e) := by
    rw [Workbook.fill, hread]
    rfl
  cases op with
  | setValue _ _ | setFormula _ _ | formatBold _ _ | formatColor _ _ | formatFill _ _ =>
    cases ha
    simp only [Operation.perform, Workbook.host, run_ask_bind, hvalue, hformula, hbold, hfill]
  | _ => cases ha

end

/-! ## Reading commands -/

namespace Operation

variable {a : Address}

/-- The text of an address is read as that address. -/
theorem address_text (h : a.WellFormed) : address a.text = .ok a := by
  rw [address, Address.parse_text h]
  rfl

/-- What is recorded for a write is read as the write that puts the value back. -/
theorem decode_setValue (h : a.WellFormed) (v : String) :
    decode (.plain .setValue [a.text, v]) = .ok (.setValue a v) := by
  simp only [Command.plain, Command.ofKind, decode, ofVerb, address_text h]
  rfl

theorem decode_setFormula (h : a.WellFormed) (f : String) :
    decode (.plain .setFormula [a.text, f]) = .ok (.setFormula a f) := by
  simp only [Command.plain, Command.ofKind, decode, ofVerb, address_text h]
  rfl

/-- The text of a flag is read as that flag. -/
theorem isWord_flagText (bold : Bool) : isWord (flagText bold) "true" = bold := by
  cases bold <;> decide

theorem decode_formatBold (h : a.WellFormed) (bold : Bool) :
    decode (.plain .formatBold [a.text, flagText bold]) = .ok (.formatBold a bold) := by
  simp only [Command.plain, Command.ofKind, decode, ofVerb, address_text h, isWord_flagText]
  rfl

theorem decode_formatColor (h : a.WellFormed) (color : String) :
    decode (.plain .formatColor [a.text, color]) = .ok (.formatColor a color) := by
  simp only [Command.plain, Command.ofKind, decode, ofVerb, address_text h]
  rfl

theorem decode_formatFill (h : a.WellFormed) (color : String) :
    decode (.plain .formatFill [a.text, color]) = .ok (.formatFill a color) := by
  simp only [Command.plain, Command.ofKind, decode, ofVerb, address_text h]
  rfl

theorem decode_clear (h : a.WellFormed) :
    decode (.plain .clear [a.text]) = .ok (.clear a) := by
  simp only [Command.plain, Command.ofKind, decode, ofVerb, address_text h]
  rfl

/-- An address that was read can be written and read again. -/
theorem wellFormed_of_address {arg : String} (h : address arg = .ok a) :
    a.WellFormed := by
  rw [address] at h
  cases hparse : Address.parse arg with
  | error e =>
    rw [hparse] at h
    cases h
  | ok a' =>
    rw [hparse] at h
    cases h
    exact Address.wellFormed_of_parse hparse

/-- So can the address that an operation was read with. -/
theorem wellFormed_of_ofVerb {verb : Verb} {args : List String} {op : Operation}
    (h : ofVerb verb args = .ok op) (ha : op.target? = some a) : a.WellFormed := by
  unfold ofVerb at h
  split at h
  case h_1 | h_2 | h_3 | h_4 | h_5 =>
    obtain ⟨a, hplace, h⟩ := bind_eq_ok h
    cases h
    cases ha
    exact wellFormed_of_address hplace
  -- these are refused
  case h_22 => cases h
  case h_23 => split at h <;> cases h
  -- the others write to no single cell; they read two arguments, none or one
  case h_12 | h_13 | h_17 =>
    obtain ⟨_, -, h⟩ := bind_eq_ok h
    obtain ⟨_, -, h⟩ := bind_eq_ok h
    cases h
    cases ha
  case h_20 | h_21 =>
    cases h
    cases ha
  all_goals
    obtain ⟨_, -, h⟩ := bind_eq_ok h
    cases h
    cases ha

/-- The command that is recorded for a write is read as a write to the same address. -/
theorem decode_back {op : Operation} {write : CellWrite} (hop : op.cellWrite? = some write)
    (ha : write.address.WellFormed) (old : Cell) :
    ∃ op' write', decode (write.back old) = .ok op' ∧ op'.cellWrite? = some write' ∧
      write'.address = write.address ∧ write'.change = write.restore old := by
  cases op with
  | setValue a v =>
    cases hop
    dsimp only at ha ⊢
    rw [restoreContents]
    by_cases hshown : old.shown = old.value
    · rw [if_pos hshown, if_pos hshown]
      exact ⟨_, _, decode_setValue ha _, rfl, rfl, rfl⟩
    · rw [if_neg hshown, if_neg hshown]
      exact ⟨_, _, decode_setFormula ha _, rfl, rfl, rfl⟩
  | setFormula a f =>
    cases hop
    exact ⟨_, _, decode_setFormula ha _, rfl, rfl, rfl⟩
  | formatBold a bold =>
    cases hop
    exact ⟨_, _, decode_formatBold ha _, rfl, rfl, rfl⟩
  | formatColor a color =>
    cases hop
    exact ⟨_, _, decode_formatColor ha _, rfl, rfl, rfl⟩
  | formatFill a color =>
    cases hop
    exact ⟨_, _, decode_formatFill ha _, rfl, rfl, rfl⟩
  | _ => cases hop

/-- What is written to one cell is written where the operation aims. -/
theorem target?_of_cellWrite? {op : Operation} {write : CellWrite}
    (hop : op.cellWrite? = some write) : op.target? = some write.address := by
  cases op with
  | setValue _ _ | setFormula _ _ | formatBold _ _ | formatColor _ _ | formatFill _ _ =>
    cases hop
    rfl
  | _ => cases hop

/-- The address of a decoded write is read again from its own text. -/
theorem wellFormed_of_decode {c : Command} {op : Operation} (h : decode c = .ok op)
    (ha : op.target? = some a) : a.WellFormed := by
  rw [decode] at h
  split at h
  · cases h
  · cases h
  · exact wellFormed_of_ofVerb h ha

end Operation

end SheetScript
