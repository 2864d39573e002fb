import SheetScript.Proofs.Changes
import SheetScript.Proofs.RowMacros

/-!
# Writing to a block

A write reaches every cell of its block once. It replaces what it is about, makes cells that were blank
and drops those that become blank, and leaves all other cells alone. A write that is refused changes
nothing.

- `BlockWrite`: the writes, as calls and as what they make of one cell (`BlockWrite.Turns`).
- `Cells.WrittenOver`: cells before and after a write to a block.
- `Workbook.write_resolved`: what a write does with an address, whether it names a block or not.
-/

namespace SheetScript

open Grid

/-- What is written to every cell of a block. -/
inductive BlockWrite where
  | value (text : String)
  | formula (text : String)
  | bold (flag : Bool)
  | fill (color : String)
deriving DecidableEq, Repr

namespace BlockWrite

/-- The write as a call. -/
def call {σ : Type} (host : Host σ) (a : Address) : BlockWrite → Call σ Unit
  | value text => host.setValue a text
  | formula text => host.setFormula a text
  | bold flag => host.setBold a flag
  | fill color => host.setFill a color

/-- What the write makes of one cell. A text is a formula if it starts with an equals sign; contents are
replaced as a whole. -/
def Turns (old new : Cell) : BlockWrite → Prop
  | value text =>
    (new.value = text ∧ new.formula = none) ∧ new.bold = old.bold ∧ new.fill = old.fill
  | formula text =>
    (if text.toList.head? = some '=' then new.value = "" ∧ new.formula = some text
      else new.value = text ∧ new.formula = none) ∧ new.bold = old.bold ∧ new.fill = old.fill
  | bold flag =>
    new.bold = flag ∧ (new.value = old.value ∧ new.formula = old.formula) ∧ new.fill = old.fill
  | fill color =>
    new.fill = color ∧ (new.value = old.value ∧ new.formula = old.formula) ∧ new.bold = old.bold

/-- The change of a cell behind the write. -/
def change : BlockWrite → Cell → Cell
  | value text => .withValue text
  | formula text => .withEntry text
  | bold flag => .withBold flag
  | fill color => .withFill color

theorem turns_change (write : BlockWrite) (c : Cell) : write.Turns c (write.change c) := by
  cases write with
  | value _ => exact ⟨⟨rfl, rfl⟩, rfl, rfl⟩
  | formula text =>
    simp only [Turns, change, Cell.withEntry]
    split
    · exact ⟨⟨rfl, rfl⟩, rfl, rfl⟩
    · exact ⟨⟨rfl, rfl⟩, rfl, rfl⟩
  | bold _ => exact ⟨rfl, ⟨rfl, rfl⟩, rfl⟩
  | fill _ => exact ⟨rfl, ⟨rfl, rfl⟩, rfl⟩

theorem run_call (write : BlockWrite) (a : Address) (w : Workbook) :
    (write.call Workbook.host a).run w = (Workbook.act (·.write a write.change)).run w := by
  cases write <;> rfl

end BlockWrite

/-! ## Cells -/

/-- The cells `after` are the cells `before` with something written to every cell of a block. -/
structure Cells.WrittenOver (write : BlockWrite) (b : Block) (before after : Cells) : Prop where
  /-- A cell of the block is there unless it became blank. -/
  inside : ∀ p, b.contains p = true → ∃ new, write.Turns (before.get p) new ∧
    after.find? p = if new = .blank then none else some new
  outside : ∀ p, b.contains p = false → after.find? p = before.find? p

namespace Cells

/-- A cell is kept unless it is blank. -/
theorem find?_eq (cells : Cells) (p : Position) :
    cells.find? p = if cells.get p = .blank then none else some (cells.get p) := by
  split
  next h => exact find?_eq_none_iff.mpr h
  next h => exact find?_eq_some_iff.mpr ⟨rfl, Cell.isBlank_eq_false_iff.mpr h⟩

/-- A change of every cell of a block is written over it. -/
theorem writtenOver_update (cells : Cells) (write : BlockWrite) (b : Block) :
    cells.WrittenOver write b (cells.update b.positions write.change) := by
  constructor
  · intro p hp
    refine ⟨_, write.turns_change (cells.get p), ?_⟩
    rw [find?_eq, get_update_block, if_pos hp]
  · intro p hp
    have hget : (cells.update b.positions write.change).get p = cells.get p := by
      rw [get_update_block, hp]
      rfl
    rw [find?_eq, find?_eq cells, hget]

end Cells

/-! ## Workbooks -/

namespace Workbook

variable {w : Workbook} {a : Address} {i : Nat} {s : Sheet} {b : Block}

/-- A write to a block that is too large is refused. -/
theorem Names.write_of_lt (h : w.Names a i s b) (f : Cell → Cell) (hsize : Sheet.maxWrite < b.size) :
    w.write a f = .error (.error (.tooLarge b.size)) := by
  rw [Workbook.write, h.changeAt]
  simp only [Sheet.writeBlock?, if_neg (Nat.not_le_of_lt hsize)]
  rfl

theorem write_of_resolve_error {e : HostError} (h : w.resolve a = .error e) (f : Cell → Cell) :
    w.write a f = .error (.error e) := by
  rw [Workbook.write, Workbook.changeAt, h]
  rfl

/-- A write to a block that is not too large reaches every cell of it and no other. To a larger block, or
with an address that names none, it is refused and changes nothing. There has to be a sheet for an
address without a sheet name. -/
theorem write_resolved (h : w.sheets ≠ [] ∨ a.sheet ≠ none) (write : BlockWrite) :
    (∀ i b, w.resolve a = .ok (i, b) → b.size ≤ Sheet.maxWrite →
      ∃ s cells, w.sheets[i]? = some s ∧
        (write.call host a).run w = (.ok (), w.withSheet i { s with cells }) ∧
        s.cells.WrittenOver write b cells) ∧
    (∀ i b, w.resolve a = .ok (i, b) → Sheet.maxWrite < b.size →
      (write.call host a).run w = (.error (.error (.tooLarge b.size)), w)) ∧
    ∀ e, w.resolve a = .error e → (write.call host a).run w = (.error (.error e), w) := by
  rw [write.run_call, run_act]
  refine ⟨fun i b hresolve hsize => ?_, fun i b hresolve hsize => ?_, fun e hresolve => ?_⟩
  · obtain ⟨s, hs⟩ := exists_names_of_resolve h hresolve
    rw [hs.write write.change hsize]
    exact ⟨s, _, hs.sheet_eq, rfl, s.cells.writtenOver_update write b⟩
  · obtain ⟨s, hs⟩ := exists_names_of_resolve h hresolve
    rw [hs.write_of_lt write.change hsize]
  · rw [write_of_resolve_error hresolve]

/-- Blanks are written over the last two of three rows, which are small enough for it, and both cells are
gone. Three columns are too many. -/
theorem write_resolved_threeRows :
    threeRows.sheets ≠ [] ∧ ∃ cells,
      (host.setValue ⟨none, "A2:C3"⟩ "").run threeRows =
        (.ok (), threeRows.withSheet 0 { Sheet.threeRows with cells }) ∧
      cells.find? ⟨3, 1, by decide, by decide⟩ = none ∧
      cells.find? ⟨1, 1, by decide, by decide⟩ = some { value := "a" } ∧
      (host.setValue ⟨none, "A:C"⟩ "").run threeRows =
        (.error (.error (.tooLarge 3145728)), threeRows) := by
  have hne : threeRows.sheets ≠ [] := by decide
  obtain ⟨hwritten, -, -⟩ := write_resolved (a := ⟨none, "A2:C3"⟩) (Or.inl hne) (.value "")
  obtain ⟨-, hlarge, -⟩ := write_resolved (a := ⟨none, "A:C"⟩) (Or.inl hne) (.value "")
  obtain ⟨s, cells, hs, hrun, hcells⟩ := hwritten 0
    (.ofCorners ⟨2, 1, by decide, by decide⟩ ⟨3, 3, by decide, by decide⟩) rfl (by decide)
  obtain rfl : Sheet.threeRows = s := Option.some.inj hs
  refine ⟨hne, cells, hrun, ?_, ?_, hlarge 0 (.ofSpan ⟨.columns, 1, 3, by decide, by decide⟩) rfl
    (by decide)⟩
  · obtain ⟨new, ⟨⟨hvalue, hformula⟩, hbold, hfill⟩, hfind⟩ :=
      hcells.inside ⟨3, 1, by decide, by decide⟩ (by decide)
    have hblank : new = .blank := Cell.ext hvalue hformula (hbold.trans (by decide))
      (hfill.trans (by decide))
    rw [hfind, if_pos hblank]
  · exact (hcells.outside _ (by decide)).trans (by decide)

/-- Without a sheet there is nothing that the active sheet could be, so a write that is to be refused for
its size does not get as far. -/
theorem setValue_noSheets :
    noSheets.resolve ⟨none, "A:A"⟩ = .ok (0, .ofSpan ⟨.columns, 1, 1, by decide, by decide⟩) ∧
    Sheet.maxWrite < (Block.ofSpan ⟨.columns, 1, 1, by decide, by decide⟩).size ∧
    (host.setValue ⟨none, "A:A"⟩ "x").run noSheets = (.error (.stop .noSheet), noSheets) :=
  ⟨rfl, by decide, rfl⟩

end Workbook

end SheetScript
