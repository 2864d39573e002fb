import SheetScript.Proofs.Lines
import SheetScript.Proofs.Notation
import SheetScript.Workbook.Basic

/-!
# Sheets within a workbook

What the calls of a workbook do, once it is known which sheet and which block an address names.

- `Workbook.Names`: an address names a block of a sheet; `names_of_resolve` gets it from `resolve`.
- `Names.withSheet`: writing to a sheet changes what addresses name in no other way.
- `Names.cellAt`, `Names.write`, `Names.clear`, `Names.snapshot`, `Names.copy`: the calls with such an
  address.
- `changeActive_eq`, `insert_eq`, `delete_eq`: calls about the active sheet.
-/

namespace SheetScript

open Grid

namespace Workbook

variable {w : Workbook} {i j : Nat} {s t : Sheet} {a : Address} {b : Block}

/-! ## Replacing a sheet -/

@[simp] theorem length_sheets_withSheet (w : Workbook) (i : Nat) (s : Sheet) :
    (w.withSheet i s).sheets.length = w.sheets.length :=
  List.length_set

theorem sheets_withSheet_ne_nil (hw : w.sheets ≠ []) (i : Nat) (s : Sheet) :
    (w.withSheet i s).sheets ≠ [] := by
  simpa [withSheet] using hw

@[simp] theorem activeIndex_withSheet (w : Workbook) (i : Nat) (s : Sheet) :
    (w.withSheet i s).activeIndex = w.activeIndex := by
  simp [activeIndex, withSheet]

@[simp] theorem withSheet_withSheet (w : Workbook) (i : Nat) (s t : Sheet) :
    (w.withSheet i s).withSheet i t = w.withSheet i t := by
  simp [withSheet]

/-- Putting a sheet where it is changes nothing. -/
theorem withSheet_self (h : w.sheets[i]? = some s) : w.withSheet i s = w := by
  obtain ⟨hi, hs⟩ := List.getElem?_eq_some_iff.mp h
  rw [withSheet, ← hs, List.set_getElem_self]

/-- The sheet that is put at an index is there. -/
theorem getElem?_withSheet_self (h : w.sheets[i]? = some s) (t : Sheet) :
    (w.withSheet i t).sheets[i]? = some t := by
  obtain ⟨hi, -⟩ := List.getElem?_eq_some_iff.mp h
  simp [withSheet, hi]

/-- A sheet that takes the place of the active one is active. -/
theorem activeSheet?_withSheet (h : w.activeSheet? = some s) (t : Sheet) :
    (w.withSheet w.activeIndex t).activeSheet? = some t := by
  rw [activeSheet?, activeIndex_withSheet]
  exact getElem?_withSheet_self h t

/-- There is a sheet at an index just when the list has one; else everything stops. -/
theorem sheetAt_eq_ok_iff : w.sheetAt i = .ok s ↔ w.sheets[i]? = some s := by
  rw [sheetAt]
  cases w.sheets[i]? <;> simp [pure, Except.pure, throw, throwThe, MonadExceptOf.throw]

theorem sheetAt_eq_ok (h : w.sheets[i]? = some s) : w.sheetAt i = .ok s :=
  sheetAt_eq_ok_iff.mpr h

theorem activeSheet_eq_ok (h : w.activeSheet? = some s) : w.activeSheet = .ok s :=
  sheetAt_eq_ok h

/-- The active index is one of a sheet, whatever index is stored, as long as there is a sheet. -/
theorem activeIndex_lt (h : w.sheets ≠ []) : w.activeIndex < w.sheets.length := by
  have := List.length_pos_of_ne_nil h
  rw [activeIndex]
  omega

/-- Every workbook with sheets has an active one. -/
theorem exists_activeSheet? (h : w.sheets ≠ []) : ∃ s, w.activeSheet? = some s :=
  ⟨_, List.getElem?_eq_getElem (activeIndex_lt h)⟩

/-- A name leads to the first sheet that has it, in upper or in lower case. -/
theorem sheetIndex?_eq_some_iff {name : String} :
    w.sheetIndex? name = some i ↔
      ∃ h : i < w.sheets.length, Text.sameIgnoringCase w.sheets[i].name name = true ∧
        ∀ j (hj : j < i), Text.sameIgnoringCase w.sheets[j].name name = false := by
  rw [sheetIndex?, List.findIdx?_eq_some_iff_getElem]
  simp

theorem requireSheet_eq_ok_iff {name : String} :
    w.requireSheet name = .ok i ↔ w.sheetIndex? name = some i := by
  rw [requireSheet]
  cases w.sheetIndex? name <;> simp [pure, Except.pure, throw, throwThe, MonadExceptOf.throw]

theorem orFail_eq_ok_iff {α : Type} {r : Except HostError α} {x : α} :
    orFail r = .ok x ↔ r = .ok x := by
  rw [orFail]
  cases r <;> simp [Except.mapError]

/-- Sheets are found by their names alone. -/
theorem sheetIndex?_congr {v : Workbook} (h : v.sheets.map Sheet.name = w.sheets.map Sheet.name)
    (name : String) : v.sheetIndex? name = w.sheetIndex? name := by
  -- the search looks at nothing but the names
  have hmap : ∀ u : Workbook, u.sheetIndex? name =
      (u.sheets.map Sheet.name).findIdx? fun n => Text.sameIgnoringCase n name := by
    intro u
    rw [sheetIndex?, List.findIdx?_map]
    rfl
  rw [hmap, hmap, h]

/-- Writing to a sheet does not change the names. -/
theorem map_name_withSheet (h : w.sheets[i]? = some s) (hname : t.name = s.name) :
    (w.withSheet i t).sheets.map Sheet.name = w.sheets.map Sheet.name := by
  obtain ⟨hi, hs⟩ := List.getElem?_eq_some_iff.mp h
  rw [withSheet, List.map_set, hname, ← hs]
  conv_rhs =>
    rw [← List.set_getElem_self (show i < (w.sheets.map Sheet.name).length by simpa using hi)]
  simp

/-! ## What an address names -/

/-- The index of the sheet that an address is about. -/
def indexOf? (w : Workbook) (a : Address) : Option Nat :=
  match a.sheet with
  | some name => w.sheetIndex? name
  | none => some w.activeIndex

/-- An address is resolved if its sheet is found and its reference is one of a block. -/
theorem resolve_eq_ok_iff :
    w.resolve a = .ok (i, b) ↔ w.indexOf? a = some i ∧ Block.parse? a.reference = some b := by
  obtain ⟨sheet, reference⟩ := a
  cases sheet with
  | none =>
    simp only [resolve, indexOf?]
    cases Block.parse? reference <;> simp [bind, Except.bind, pure, Except.pure, throw, throwThe,
      MonadExceptOf.throw]
  | some name =>
    simp only [resolve, indexOf?, requireSheet]
    cases w.sheetIndex? name <;> cases Block.parse? reference <;>
      simp [bind, Except.bind, pure, Except.pure, throw, throwThe, MonadExceptOf.throw]

/-- An address is refused because there is no such sheet or no such block. -/
theorem isSession_of_resolve {e : HostError} (h : w.resolve a = .error e) :
    e.isSession = false := by
  obtain ⟨sheet, reference⟩ := a
  cases sheet with
  | none =>
    simp only [resolve] at h
    cases hb : Block.parse? reference <;> rw [hb] at h <;> cases h
    rfl
  | some name =>
    simp only [resolve, requireSheet] at h
    cases hi : w.sheetIndex? name <;> cases hb : Block.parse? reference <;>
      rw [hi, hb] at h <;> cases h <;> rfl

/-- The index an address leads to is one of a sheet, as long as there is a sheet. -/
theorem indexOf?_lt (hw : w.sheets ≠ []) (h : w.indexOf? a = some i) : i < w.sheets.length := by
  obtain ⟨sheet, reference⟩ := a
  cases sheet with
  | none =>
    cases h
    exact activeIndex_lt hw
  | some name => exact (sheetIndex?_eq_some_iff.mp h).1

/-- In `w` the address `a` names the block `b` of the sheet `s`, which has the index `i`. -/
structure Names (w : Workbook) (a : Address) (i : Nat) (s : Sheet) (b : Block) : Prop where
  indexOf?_eq : w.indexOf? a = some i
  sheet_eq : w.sheets[i]? = some s
  parse?_eq : Block.parse? a.reference = some b

/-- What an address names is what it is resolved to. -/
theorem Names.resolve_eq (h : w.Names a i s b) : w.resolve a = .ok (i, b) :=
  resolve_eq_ok_iff.mpr ⟨h.indexOf?_eq, h.parse?_eq⟩

/-- In a workbook with sheets, what an address is resolved to is what it names. -/
theorem names_of_resolve (hw : w.sheets ≠ []) (h : w.resolve a = .ok (i, b)) :
    ∃ s, w.Names a i s b := by
  obtain ⟨hi, hb⟩ := resolve_eq_ok_iff.mp h
  exact ⟨_, hi, List.getElem?_eq_getElem (indexOf?_lt hw hi), hb⟩

/-- An address with the name of a sheet is only resolved if there is one. -/
theorem sheets_ne_nil_of_resolve (h : w.sheets ≠ [] ∨ a.sheet ≠ none)
    (hresolve : w.resolve a = .ok (i, b)) : w.sheets ≠ [] := by
  intro hnone
  have hname : a.sheet ≠ none := h.resolve_left (absurd hnone)
  obtain ⟨sheet, reference⟩ := a
  cases sheet with
  | none => exact hname rfl
  | some name =>
    obtain ⟨hi, -⟩ := resolve_eq_ok_iff.mp hresolve
    obtain ⟨hlt, -⟩ := sheetIndex?_eq_some_iff.mp hi
    rw [hnone] at hlt
    exact absurd hlt (Nat.not_lt_zero i)

/-- What an address names belongs to a sheet, unless it is about the active sheet and there is none. -/
theorem exists_names_of_resolve (h : w.sheets ≠ [] ∨ a.sheet ≠ none)
    (hresolve : w.resolve a = .ok (i, b)) : ∃ s, w.Names a i s b :=
  names_of_resolve (sheets_ne_nil_of_resolve h hresolve) hresolve

/-- A workbook without a sheet. -/
def noSheets : Workbook where
  sheets := []

/-- Writing to a sheet changes what addresses name in no other way. -/
theorem Names.withSheet (h : w.Names a i s b) (hname : t.name = s.name) :
    (w.withSheet i t).Names a i t b where
  indexOf?_eq := by
    have hi := h.indexOf?_eq
    simp only [indexOf?] at hi ⊢
    cases hsheet : a.sheet with
    | none => simpa [hsheet] using hi
    | some name =>
      rw [hsheet] at hi
      simpa only [sheetIndex?_congr (map_name_withSheet h.sheet_eq hname)] using hi
  sheet_eq := getElem?_withSheet_self h.sheet_eq t
  parse?_eq := h.parse?_eq

/-- An address without a sheet name is about the active sheet. -/
theorem names_active {reference : String} (h : w.activeSheet? = some s)
    (hb : Block.parse? reference = some b) : w.Names ⟨none, reference⟩ w.activeIndex s b :=
  ⟨rfl, h, hb⟩

/-! ## Calls -/

theorem Names.orFail_resolve (h : w.Names a i s b) : orFail (w.resolve a) = .ok (i, b) := by
  rw [h.resolve_eq]
  rfl

/-- A question about a block is answered from its first cell. -/
theorem Names.cellAt (h : w.Names a i s b) : w.cellAt a = .ok (s.cells.get b.topLeft) := by
  rw [Workbook.cellAt, h.orFail_resolve]
  show (do return (← w.sheetAt i).cells.get b.topLeft) = _
  rw [sheetAt_eq_ok h.sheet_eq]
  rfl

/-- A call with an address changes the sheet it names and puts it back. -/
theorem Names.changeAt (h : w.Names a i s b) (f : Sheet → Block → Except Failure Sheet) :
    w.changeAt a f = (f s b).map (w.withSheet i) := by
  rw [Workbook.changeAt, h.orFail_resolve]
  show (do return w.withSheet i (← f (← w.sheetAt i) b)) = _
  rw [sheetAt_eq_ok h.sheet_eq]
  show (do return w.withSheet i (← f s b)) = _
  cases f s b <;> rfl

/-- A write that is not too large changes each cell of the block. -/
theorem Names.write (h : w.Names a i s b) (f : Cell → Cell) (hsize : b.size ≤ Sheet.maxWrite) :
    w.write a f = .ok (w.withSheet i { s with cells := s.cells.update b.positions f }) := by
  rw [Workbook.write, h.changeAt]
  simp only [Sheet.writeBlock?, if_pos hsize]
  rfl

theorem Names.clear (h : w.Names a i s b) : w.clear a = .ok (w.withSheet i (s.clearBlock b)) := by
  rw [Workbook.clear, h.changeAt]
  rfl

/-- A snapshot lists the cells in use within the block, under the sheet name of the address. -/
theorem Names.snapshot (h : w.Names a i s b) :
    w.snapshot a =
      .ok ((s.cells.within b).map fun e => ⟨a.withReference e.1.text, e.2⟩) := by
  rw [Workbook.snapshot, h.orFail_resolve]
  show (do return ((← w.sheetAt i).cells.within b).map fun (e : Position × Cell) =>
    PlacedCell.mk (a.withReference e.1.text) e.2) = _
  rw [sheetAt_eq_ok h.sheet_eq]
  rfl

/-- A copy goes to the first cell of the target, whatever the size of the target. -/
theorem Names.copy {a' : Address} {b' : Block} (h : w.Names a i s b) (h' : w.Names a' j t b') :
    w.copy a a' = .ok (w.withSheet j (t.pasteBlock b s.cells b'.topLeft)) := by
  rw [Workbook.copy, h.orFail_resolve, h'.orFail_resolve]
  show (do
    let origin ← w.sheetAt i
    return w.withSheet j ((← w.sheetAt j).pasteBlock b origin.cells b'.topLeft)) = _
  rw [sheetAt_eq_ok h.sheet_eq, sheetAt_eq_ok h'.sheet_eq]
  rfl

/-- A call without an address changes the active sheet and puts it back. -/
theorem changeActive_eq (h : w.activeSheet? = some s) (f : Sheet → Except Failure Sheet) :
    w.changeActive f = (f s).map (w.withSheet w.activeIndex) := by
  rw [changeActive, activeSheet_eq_ok h]
  show (do return w.withSheet w.activeIndex (← f s)) = _
  cases f s <;> rfl

/-- An insertion that shifts the way its lines do inserts them into the active sheet. -/
theorem insert_eq (h : w.activeSheet? = some s) (lines : Span) :
    w.insert lines lines.insertShift = .ok (w.withSheet w.activeIndex (s.insertLines lines)) := by
  rw [insert, if_pos rfl, changeActive_eq h]
  rfl

theorem delete_eq (h : w.activeSheet? = some s) (lines : Span) :
    w.delete lines lines.deleteShift = .ok (w.withSheet w.activeIndex (s.deleteLines lines)) := by
  rw [delete, if_pos rfl, changeActive_eq h]
  rfl

end Workbook

end SheetScript
