import Std.Data.ExtTreeMap
import SheetScript.Grid.Block
import SheetScript.Sheet.Cell

/-!
# The cells of a sheet

Almost all cells of a sheet are blank. The others are kept in a sorted map, which never holds a blank
cell, so two collections of cells are equal as soon as they show the same cell everywhere (`ext`).

- `Cells.get`: the cell at a position, the view in which all operations are described.
- `Cells.set`, `Cells.setAll`, `Cells.update`: write cells.
- `Cells.keep`: blank all cells outside a set of positions.
- `Cells.relocate`: move cells to other positions.
- `Cells.toList`: the cells in use, row by row.
-/

namespace SheetScript

open Grid

/-- Cells at the positions of the grid, all blank but finitely many. -/
structure Cells where
  /-- The cells in use. -/
  used : Std.ExtTreeMap Position Cell
  used_nonblank : ∀ (p : Position) (c : Cell), used[p]? = some c → c.isBlank = false
deriving DecidableEq

namespace Cells

/-- The cell at a position. -/
def get (cells : Cells) (p : Position) : Cell :=
  cells.used[p]?.getD .blank

/-- The cell at a position, if it is in use. -/
def find? (cells : Cells) (p : Position) : Option Cell :=
  cells.used[p]?

theorem find?_eq_some_iff {cells : Cells} {p : Position} {c : Cell} :
    cells.find? p = some c ↔ cells.get p = c ∧ c.isBlank = false := by
  unfold get find?
  constructor
  · intro h
    exact ⟨by rw [h]; rfl, cells.used_nonblank p c h⟩
  · rintro ⟨rfl, hc⟩
    cases h : cells.used[p]? with
    | none => rw [h] at hc; cases hc
    | some c => rfl

theorem find?_eq_none_iff {cells : Cells} {p : Position} :
    cells.find? p = none ↔ cells.get p = .blank := by
  unfold get find?
  constructor
  · intro h
    rw [h]; rfl
  · intro h
    cases hp : cells.used[p]? with
    | none => rfl
    | some c =>
      have hc := cells.used_nonblank p c hp
      rw [hp] at h
      rw [show c = .blank from h] at hc
      cases hc

/-- Cells that look the same everywhere are the same. -/
@[ext] theorem ext {a b : Cells} (h : ∀ p, a.get p = b.get p) : a = b := by
  have hused : a.used = b.used := by
    refine Std.ExtTreeMap.ext_getElem? fun p => ?_
    cases hb : b.find? p with
    | none =>
      have := (find?_eq_none_iff.mpr ((h p).trans (find?_eq_none_iff.mp hb)))
      exact this.trans hb.symm
    | some c =>
      obtain ⟨hget, hc⟩ := find?_eq_some_iff.mp hb
      have := find?_eq_some_iff.mpr ⟨(h p).trans hget, hc⟩
      exact this.trans hb.symm
  obtain ⟨ua, _⟩ := a
  obtain ⟨ub, _⟩ := b
  cases hused
  rfl

/-! ## Operations -/

/-- All cells blank. -/
def empty : Cells :=
  ⟨∅, fun p c h => by simp at h⟩

/-- The cell in a row and a column, blank outside the grid. -/
def getAt (cells : Cells) (row col : Nat) : Cell :=
  ((Position.at? row col).map cells.get).getD .blank

/-- Put a cell at a position, or clear it if the cell is blank. Only a write to a block puts blank cells:
lines that move, copies and sorts put cells that are in use. -/
def set (cells : Cells) (p : Position) (c : Cell) : Cells :=
  if h : c.isBlank then
    ⟨cells.used.erase p, fun q d hd => by
      rw [Std.ExtTreeMap.getElem?_erase] at hd
      split at hd
      · cases hd
      · exact cells.used_nonblank q d hd⟩
  else
    ⟨cells.used.insert p c, fun q d hd => by
      rw [Std.ExtTreeMap.getElem?_insert] at hd
      split at hd
      · cases hd; simpa using h
      · exact cells.used_nonblank q d hd⟩

/-- Blank all cells but those at positions to keep. -/
def keep (cells : Cells) (wanted : Position → Bool) : Cells :=
  ⟨cells.used.filter fun p _ => wanted p, fun p c h => by
    rw [Std.ExtTreeMap.getElem?_filter'] at h
    rw [Option.filter_eq_some_iff] at h
    exact cells.used_nonblank p c h.1⟩

/-- The cells in use with their positions, row by row. -/
def toList (cells : Cells) : List (Position × Cell) :=
  cells.used.toList

/-- Put several cells, one after another. -/
def setAll (cells : Cells) (entries : List (Position × Cell)) : Cells :=
  entries.foldl (fun acc e => acc.set e.1 e.2) cells

/-- Change the cells at some positions, one after another. -/
def update (cells : Cells) (positions : List Position) (f : Cell → Cell) : Cells :=
  positions.foldl (fun acc p => acc.set p (f (acc.get p))) cells

/-- The given cells on an otherwise blank grid; of two entries for a position the later one counts. -/
def ofList (entries : List (Position × Cell)) : Cells :=
  empty.setAll entries

/-- Move each cell in use to a new position, or drop it. -/
def relocate (cells : Cells) (f : Position → Option Position) : Cells :=
  ofList (cells.toList.filterMap fun e => (f e.1).map fun q => (q, e.2))

/-- The cells in use within a block, row by row. -/
def within (cells : Cells) (b : Block) : List (Position × Cell) :=
  cells.toList.filter fun e => b.contains e.1

/-- How many cells are in use. -/
def count (cells : Cells) : Nat :=
  cells.used.size

/-! ## What the operations do to the view -/

@[simp] theorem get_empty (p : Position) : empty.get p = .blank := by
  simp [get, empty]

@[simp] theorem get_set_self (cells : Cells) (p : Position) (c : Cell) :
    (cells.set p c).get p = c := by
  unfold set
  split
  · next h =>
    rw [Cell.isBlank_iff.mp h]
    simp [get]
  · simp [get]

theorem get_set_other {p q : Position} (cells : Cells) (c : Cell) (h : q ≠ p) :
    (cells.set p c).get q = cells.get q := by
  have hcmp : compare p q ≠ .eq := fun he => h (Std.LawfulEqOrd.eq_of_compare he).symm
  unfold set
  split
  · simp [get, Std.ExtTreeMap.getElem?_erase, hcmp]
  · simp [get, Std.ExtTreeMap.getElem?_insert, hcmp]

theorem get_set (cells : Cells) (p q : Position) (c : Cell) :
    (cells.set p c).get q = if q = p then c else cells.get q := by
  split
  · next h => rw [h, get_set_self]
  · next h => exact get_set_other cells c h

@[simp] theorem get_keep (cells : Cells) (wanted : Position → Bool) (p : Position) :
    (cells.keep wanted).get p = if wanted p then cells.get p else .blank := by
  unfold get keep
  rw [Std.ExtTreeMap.getElem?_filter']
  cases wanted p <;> cases cells.used[p]? <;> simp [Option.filter]

/-- A cell is listed where it is in use. -/
theorem mem_toList {cells : Cells} {p : Position} {c : Cell} :
    (p, c) ∈ cells.toList ↔ cells.get p = c ∧ c.isBlank = false :=
  Std.ExtTreeMap.mem_toList_iff_getElem?_eq_some.trans find?_eq_some_iff

end Cells

end SheetScript
