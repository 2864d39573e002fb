import SheetScript.Proofs.Changes
import SheetScript.Proofs.TrappingSheets

/-!
# A workbook whose calls can trap

The calls of a workbook that add up, take away or look up by an index, with every check of these steps
made. None of them traps on any workbook, so the workbook answers its calls as it does without the
checks.

- `Trapping.host`: the workbook with these calls. A trap ends a call as a missing sheet does: nothing
  can go on from there.
- `write_eq`, `copy_eq`, `sort_eq`, …: the calls one by one.
- `host_eq`: the workbook as a whole.
-/

namespace SheetScript

open Grid

namespace Trapping

variable (w : Workbook) (address : Address) {α : Type}

/-! ## One sheet of a workbook -/

/-- Change the sheet an address names. -/
def changeAt (f : Sheet → Block → Run Failure Sheet) : Run Failure Workbook := do
  let (i, b) ← reached (Workbook.orFail (w.resolve address))
  return w.withSheet i (← f (← reached (w.sheetAt i)) b)

/-- Change the active sheet. -/
def changeActive (f : Sheet → Run Failure Sheet) : Run Failure Workbook := do
  return w.withSheet w.activeIndex (← f (← reached w.activeSheet))

variable {w address}

/-- A change that does not trap on a sheet does not trap on the sheet of an address: what is resolved is
there. -/
theorem changeAt_eq {f : Sheet → Block → Run Failure Sheet} {g : Sheet → Block → Except Failure Sheet}
    (h : ∀ s b, f s b = reached (g s b)) : changeAt w address f = reached (w.changeAt address g) := by
  simp only [changeAt, Workbook.changeAt, h, reached_bind, reached_pure]

/-- Nor does it on the active sheet. -/
theorem changeActive_eq {f : Sheet → Run Failure Sheet} {g : Sheet → Except Failure Sheet}
    (h : ∀ s, f s = reached (g s)) : changeActive w f = reached (w.changeActive g) := by
  simp only [changeActive, Workbook.changeActive, h, reached_bind, reached_pure]

variable (w address)

/-! ## Cells -/

/-- Change every cell of a block. -/
def write (f : Cell → Cell) : Run Failure Workbook :=
  changeAt w address fun s b => do
    let n ← size b
    if Sheet.maxWrite < n then throw (.error (.tooLarge n))
    else return { s with cells := s.cells.update b.positions f }

/-- A write multiplies the sides of its block, which fits 64 bits. -/
theorem write_eq (f : Cell → Cell) : write w address f = reached (w.write address f) := by
  refine changeAt_eq fun s b => ?_
  rw [size_eq, lift_pure, pure_bind, Sheet.writeBlock?]
  by_cases hsize : b.size ≤ Sheet.maxWrite
  · rw [if_neg (Nat.not_lt_of_le hsize), if_pos hsize, reached_pure]
  · rw [if_pos (Nat.lt_of_not_le hsize), if_neg hsize, reached_throw]

/-- The used cells of a block with their addresses. -/
def snapshot : Run Failure (List PlacedCell) := do
  let (i, b) ← reached (Workbook.orFail (w.resolve address))
  let cells ← within (← reached (w.sheetAt i)).cells b
  cells.mapM fun e => return (⟨address.withReference (← text e.1), e.2⟩ : PlacedCell)

/-- A snapshot finds its sheet. -/
theorem snapshot_eq : snapshot w address = reached (w.snapshot address) := by
  simp only [snapshot, Workbook.snapshot, within_eq, text_eq, lift_pure, pure_bind, List.mapM_pure,
    reached_bind, reached_pure]

/-- Sort the rows of a block by one of its columns. -/
def sort (key : Nat) (ascending : Bool) : Run Failure Workbook :=
  changeAt w address fun s b => do
    if key < (← width b) then
      let keyColumn ← add32 b.left (← to32 key)
      match ← sortRows? s.cells (s.areaToSort address.reference b keyColumn) keyColumn ascending with
      | some cells => return { s with cells }
      | none => throw (.stop .disorder)
    else throw (.error (.keyOutside key address.reference))

/-- A sort adds its key to the first column only if it lies in the block. -/
theorem sort_eq (key : Nat) (ascending : Bool) :
    sort w address key ascending = reached (w.sort address key ascending) := by
  refine changeAt_eq fun s b => ?_
  rw [width_eq, lift_pure, pure_bind]
  split
  next hkey =>
    have hordered := b.columns_ordered
    have hwithin := b.columns_within
    rw [Block.width] at hkey
    have hsum := add_le_max32 (a := b.left) (b := key)
      (le_maxRows_of_le_maxColumns (by omega)) (le_maxRows_of_le_maxColumns (by omega))
    rw [to32_eq (by omega), lift_pure, pure_bind, add32_eq hsum, lift_pure, pure_bind]
    simp only [sortRows?_eq, lift_pure, pure_bind]
    cases s.cells.sortRows? (s.areaToSort address.reference b (b.left + key)) (b.left + key)
      ascending <;> rfl
  next => rfl

/-- Copy a block onto the block of the same size at the first cell of the target. -/
def copy (source target : Address) : Run Failure Workbook := do
  let (i, sourceBlock) ← reached (Workbook.orFail (w.resolve source))
  let (j, targetBlock) ← reached (Workbook.orFail (w.resolve target))
  let origin ← reached (w.sheetAt i)
  return w.withSheet j
    (← pasteBlock (← reached (w.sheetAt j)) sourceBlock origin.cells targetBlock.topLeft)

/-- A copy finds both its sheets. -/
theorem copy_eq (source target : Address) : copy w source target = reached (w.copy source target) := by
  simp only [copy, Workbook.copy, pasteBlock_eq, lift_pure, pure_bind, reached_bind, reached_pure]

/-! ## Lines -/

/-- Insert lines on the active sheet. -/
def insert (lines : Span) (shift : Shift) : Run Failure Workbook :=
  if shift = lines.insertShift then
    changeActive w fun s => do
      let n ← count lines
      return { s with cells := ← relocate s.cells (insertedAt lines n) }
  else throw (.error (.wrongShift shift lines))

theorem insert_eq (lines : Span) (shift : Shift) :
    insert w lines shift = reached (w.insert lines shift) := by
  rw [insert, Workbook.insert]
  split
  · refine changeActive_eq fun s => ?_
    rw [count_eq, lift_pure, pure_bind, relocate_eq (insertedAt_eq lines), lift_pure, pure_bind]
    rfl
  · rfl

/-- Delete lines on the active sheet. -/
def delete (lines : Span) (shift : Shift) : Run Failure Workbook :=
  if shift = lines.deleteShift then
    changeActive w fun s => do
      let n ← count lines
      return { s with cells := ← relocate s.cells (deletedAt lines n) }
  else throw (.error (.wrongShift shift lines))

theorem delete_eq (lines : Span) (shift : Shift) :
    delete w lines shift = reached (w.delete lines shift) := by
  rw [delete, Workbook.delete]
  split
  · refine changeActive_eq fun s => ?_
    rw [count_eq, lift_pure, pure_bind, relocate_eq (deletedAt_eq lines), lift_pure, pure_bind]
    rfl
  · rfl

/-! ## Sheets and charts -/

/-- Delete a sheet. -/
def deleteSheet (name : String) : Run Failure Workbook := do
  let i ← reached (Workbook.orFail (w.requireSheet name))
  if w.sheets.length = 1 then throw (.error .lastSheet)
  else
    let active := w.activeIndex
    let sheets ← removeAt w.sheets i
    if i < active then return { w with sheets, active := ← sub active 1 }
    else return { w with sheets, active := min active (← sub sheets.length 1) }

/-- Delete the first chart of the active sheet with a name, ignoring the case of ASCII letters. -/
def deleteChart (name : String) : Run Failure Workbook :=
  changeActive w fun s =>
    match s.charts.findIdx? fun c => Text.sameIgnoringCase c.name name with
    | some i => return { s with charts := ← removeAt s.charts i }
    | none => throw (.error (.chartNotFound name))

/-- The index of a sheet that is found has a sheet, and what is left of several sheets is not none. -/
theorem deleteSheet_eq (name : String) : deleteSheet w name = reached (w.deleteSheet name) := by
  rw [deleteSheet, Workbook.deleteSheet]
  rcases Workbook.gives_requireSheet w name with ⟨e, -, hname⟩ | ⟨i, hname, hi⟩
  · rw [hname]
    rfl
  · rw [hname]
    show (if w.sheets.length = 1 then _ else _) = reached (if w.sheets.length = 1 then _ else _)
    split
    · rfl
    · have hleft := List.length_eraseIdx_of_lt hi
      rw [removeAt_eq hi, lift_pure, pure_bind]
      by_cases hlt : i < w.activeIndex
      · rw [if_pos hlt, if_pos hlt, sub_eq (by omega)]
        rfl
      · rw [if_neg hlt, if_neg hlt, sub_eq (by omega), hleft, Nat.sub_sub]
        rfl

theorem deleteChart_eq (name : String) : deleteChart w name = reached (w.deleteChart name) := by
  refine changeActive_eq fun s => ?_
  cases hfound : s.charts.findIdx? fun c => Text.sameIgnoringCase c.name name with
  | none => rfl
  | some i =>
    have hi : i < s.charts.length := (List.findIdx?_eq_some_iff_getElem.mp hfound).1
    simp only [removeAt_eq hi, lift_pure, pure_bind, reached_pure]

/-! ## The workbook -/

/-- The outcome of a computation. A trap ends a call as a missing sheet does: nothing can go on from
there. -/
def orStop {α : Type} (x : Run Failure α) : Except Failure α :=
  match x.run with
  | .ok r => r
  | .error _ => throw (.stop .noSheet)

@[simp] theorem orStop_reached {α : Type} (r : Except Failure α) : orStop (reached r) = r := rfl

/-- Batches on a workbook whose calls can trap. -/
def host : Host Workbook :=
  { Workbook.host with
    setValue := fun address text => Workbook.act fun w => orStop (write w address (.withValue text))
    setFormula := fun address text => Workbook.act fun w => orStop (write w address (.withEntry text))
    setBold := fun address bold => Workbook.act fun w => orStop (write w address (.withBold bold))
    setFill := fun address color => Workbook.act fun w => orStop (write w address (.withFill color))
    insert := fun lines shift => Workbook.act fun w => orStop (insert w lines shift)
    delete := fun lines shift => Workbook.act fun w => orStop (delete w lines shift)
    copy := fun source target => Workbook.act fun w => orStop (copy w source target)
    snapshot := fun address => Workbook.ask fun w => orStop (snapshot w address)
    deleteSheet := fun name => Workbook.act fun w => orStop (deleteSheet w name)
    deleteChart := fun name => Workbook.act fun w => orStop (deleteChart w name)
    sort := fun address key ascending => Workbook.act fun w => orStop (sort w address key ascending) }

/-- No call on a workbook traps. -/
theorem host_eq : host = Workbook.host := by
  simp only [host, write_eq, insert_eq, delete_eq, copy_eq, snapshot_eq, deleteSheet_eq,
    deleteChart_eq, sort_eq, orStop_reached]
  rfl

end Trapping

end SheetScript
