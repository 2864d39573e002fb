import SheetScript.Proofs.Changes
import SheetScript.Proofs.Clean

/-!
# Parts of cells

Commands write the contents of a cell, its weight or its fill colour, and leave the other two parts. A
workbook is seen here as the parts of its cells, so that writes to different parts do not meet.

- `Cell.only`, `Cell.withPart`: one part of a cell, and a cell with one part of another.
- `Workbook.partAt`, `Workbook.putPart`: the part at a place of a workbook, read and written.
- `Workbook.frame`: all there is to the sheets but their cells.
- `sheets_eq_iff`: the sheets are told by their frame and the parts of their cells.
-/

namespace SheetScript

open Grid

instance (cells : Cells) : Decidable (cells.All Cell.Normal) :=
  decidable_of_iff _ (Cells.all_iff Cell.Normal.blank).symm

/-! ## Parts of one cell -/

namespace Cell

/-- What commands write of a cell. -/
inductive Part where
  | contents
  | bold
  | fill
deriving DecidableEq, Repr

/-- A cell with one part of another cell. -/
def withPart (c : Cell) (part : Part) (source : Cell) : Cell :=
  match part with
  | .contents => { c with value := source.value, formula := source.formula }
  | .bold => { c with bold := source.bold }
  | .fill => { c with fill := source.fill }

/-- The cell that has nothing but one part of a cell. -/
def only (c : Cell) (part : Part) : Cell :=
  blank.withPart part c

variable {c d source : Cell} {part other : Part}

@[simp] theorem only_withPart_self : (c.withPart part source).only part = source.only part := by
  cases part <;> rfl

/-- Putting one part leaves the others. -/
theorem only_withPart_of_ne (h : other ≠ part) :
    (c.withPart part source).only other = c.only other := by
  cases part <;> cases other <;> first | rfl | exact absurd rfl h

/-- A cell is the sum of its parts. -/
theorem eq_of_only (h : ∀ part, c.only part = d.only part) : c = d := by
  have hcontents := h .contents
  have hbold := h .bold
  have hfill := h .fill
  simp only [only, withPart, Cell.mk.injEq, and_true, true_and] at hcontents hbold hfill
  exact Cell.ext hcontents.1 hcontents.2 hbold hfill

theorem Normal.withPart (hc : c.Normal) (hsource : source.Normal) (part : Part) :
    (c.withPart part source).Normal := by
  cases part with
  | contents => exact hsource
  | bold => exact hc
  | fill => exact hc

end Cell

/-! ## Places of a workbook -/

namespace Workbook

variable {v w : Workbook} {i j : Nat} {s : Sheet} {p q : Position} {part other : Cell.Part}
  {source : Cell}

/-- One part of the cell at a position of a sheet, blank if there is no such sheet. -/
def partAt (w : Workbook) (i : Nat) (p : Position) (part : Cell.Part) : Cell :=
  (w.sheets[i]?.map fun s => (s.cells.get p).only part).getD .blank

/-- A workbook with another part of the cell at a position of a sheet. -/
def putPart (w : Workbook) (i : Nat) (p : Position) (part : Cell.Part) (source : Cell) : Workbook :=
  match w.sheets[i]? with
  | some s => w.withSheet i (s.setCell p ((s.cells.get p).withPart part source))
  | none => w

/-- The sheets of a workbook without their cells. -/
def frame (w : Workbook) : List Sheet :=
  w.sheets.map fun s => { s with cells := .empty }

theorem partAt_eq (hs : w.sheets[i]? = some s) : w.partAt i p part = (s.cells.get p).only part := by
  rw [partAt, hs]
  rfl

theorem putPart_eq (hs : w.sheets[i]? = some s) :
    w.putPart i p part source =
      w.withSheet i (s.setCell p ((s.cells.get p).withPart part source)) := by
  rw [putPart, hs]

@[simp] theorem activeIndex_putPart : (w.putPart i p part source).activeIndex = w.activeIndex := by
  rw [putPart]
  split
  · exact activeIndex_withSheet w i _
  · rfl

@[simp] theorem frame_putPart : (w.putPart i p part source).frame = w.frame := by
  rw [putPart]
  split
  next s hs =>
    obtain ⟨hi, rfl⟩ := List.getElem?_eq_some_iff.mp hs
    rw [frame, frame, withSheet, List.map_set]
    -- the new sheet has the frame of the old one
    refine List.ext_getElem (by simp) fun k hk hk' => ?_
    rw [List.getElem_set]
    split
    next h => subst h; simp [Sheet.setCell]
    next => rfl
  next => rfl

/-- A part that is put shows where it was put. -/
theorem partAt_putPart_self (hi : i < w.sheets.length) :
    (w.putPart i p part source).partAt i p part = source.only part := by
  have hs := List.getElem?_eq_getElem hi
  rw [putPart_eq hs, partAt_eq (getElem?_withSheet_self hs _), Sheet.get_setCell_self,
    Cell.only_withPart_self]

/-- It shows nowhere else. -/
theorem partAt_putPart_of_ne (h : ¬(j = i ∧ q = p ∧ other = part)) :
    (w.putPart i p part source).partAt j q other = w.partAt j q other := by
  rw [putPart]
  split
  next s hs =>
    by_cases hj : j = i
    · subst hj
      rw [partAt_eq (getElem?_withSheet_self hs _), partAt_eq hs, Sheet.get_setCell]
      by_cases hq : q = p
      · subst hq
        rw [if_pos rfl, Cell.only_withPart_of_ne fun hpart => h ⟨rfl, rfl, hpart⟩]
      · rw [if_neg hq]
    · rw [partAt, withSheet, List.getElem?_set_ne (Ne.symm hj), partAt]
  next => rfl

/-- Normal cells stay normal when a part of one of them is taken from another normal cell. -/
theorem normal_putPart (hw : ∀ s ∈ w.sheets, s.cells.All Cell.Normal) (hsource : source.Normal) :
    ∀ s ∈ (w.putPart i p part source).sheets, s.cells.All Cell.Normal := by
  rw [putPart]
  split
  next s hs =>
    intro t ht
    rcases List.mem_or_eq_of_mem_set ht with ht | rfl
    · exact hw t ht
    · have hold := hw s (List.mem_of_getElem? hs)
      exact hold.set p ((hold p).withPart hsource part)
  next => exact hw

/-! ## Frames -/

/-- Workbooks that differ in cells only have as many sheets. -/
theorem length_sheets_of_frame (h : v.frame = w.frame) : v.sheets.length = w.sheets.length := by
  have hlength := congrArg List.length h
  rwa [frame, frame, List.length_map, List.length_map] at hlength

theorem sheets_ne_nil_of_frame (h : v.frame = w.frame) (hw : w.sheets ≠ []) : v.sheets ≠ [] := by
  have hlength := length_sheets_of_frame h
  intro hnil
  rw [hnil] at hlength
  exact hw (List.eq_nil_of_length_eq_zero hlength.symm)

/-- What sheet an address is about is told by the frame and the active sheet. -/
theorem indexOf?_congr (h : v.frame = w.frame) (hactive : v.activeIndex = w.activeIndex)
    (a : Address) : v.indexOf? a = w.indexOf? a := by
  have hnames : v.sheets.map Sheet.name = w.sheets.map Sheet.name := by
    have hmap := congrArg (List.map Sheet.name) h
    rwa [frame, frame, List.map_map, List.map_map] at hmap
  rw [indexOf?, indexOf?, hactive]
  cases a.sheet with
  | none => rfl
  | some name => exact sheetIndex?_congr hnames name

/-- Two sheets are equal if all is equal but the cells, and these are so part by part. -/
theorem sheets_eq_iff (h : v.frame = w.frame) :
    v.sheets = w.sheets ↔ ∀ i p part, v.partAt i p part = w.partAt i p part := by
  constructor
  · intro heq i p part
    rw [partAt, heq, partAt]
  · intro hparts
    have hlength := length_sheets_of_frame h
    refine List.ext_getElem hlength fun i hi hi' => ?_
    have hv := List.getElem?_eq_getElem hi
    have hw := List.getElem?_eq_getElem hi'
    have hcells : v.sheets[i].cells = w.sheets[i].cells := by
      refine Cells.ext fun p => Cell.eq_of_only fun part => ?_
      rw [← partAt_eq hv, ← partAt_eq hw, hparts]
    have hframe : ({ v.sheets[i] with cells := .empty } : Sheet) =
        { w.sheets[i] with cells := .empty } := by
      have hget := congrArg (·[i]?) h
      simpa [frame, hi, hi'] using hget
    simp only [Sheet.mk.injEq, true_and] at hframe
    generalize v.sheets[i] = s at hcells hframe
    generalize w.sheets[i] = t at hcells hframe
    obtain ⟨name, cells, charts⟩ := s
    obtain ⟨name', cells', charts'⟩ := t
    obtain ⟨rfl, rfl⟩ := hframe
    obtain rfl : cells = cells' := hcells
    rfl

end Workbook

end SheetScript
