import Mathlib.Data.List.Nodup
import SheetScript.Sheet.Basic

/-!
# What bulk changes do to the view of the cells

`Sheet/Cells` describes single writes through `Cells.get`. Here the same is done for the operations
that touch many cells at once, so that no later proof has to open a fold or a list of entries.

- `forall_get_iff`: what holds of all cells, told from the cells in use.
- `get_setAll_eq`: writing a list of entries.
- `get_update`, `get_update_block`: changing the cells at a list of positions, or of a block.
- `get_relocate_eq`: moving cells; `get_relocate` reads a partial injection through its partial inverse.
- `Cells.getAt`: the view by row and column numbers, blank outside the grid. Index arithmetic is done
  on it alone.
-/

namespace SheetScript

open Grid

theorem Cell.isBlank_eq_false_iff {c : Cell} : c.isBlank = false ↔ c ≠ .blank := by
  rw [Ne, ← Cell.isBlank_iff, Bool.not_eq_true]

namespace Cells

variable {cells : Cells} {p q : Position} {c : Cell}

/-! ## Lists of entries -/

/-- No position is listed twice. -/
theorem nodup_keys_toList (cells : Cells) : (cells.toList.map Prod.fst).Nodup := by
  rw [List.nodup_iff_pairwise_ne, List.pairwise_map]
  refine List.Pairwise.imp ?_ (Std.ExtTreeMap.distinct_keys_toList (t := cells.used))
  intro a b hne heq
  exact hne (heq ▸ Std.ReflCmp.compare_self)

/-- What blank cells meet anyway is met at every position if the cells in use meet it. -/
theorem forall_get_iff {P : Position → Cell → Prop} (hblank : ∀ p, P p .blank) :
    (∀ p, P p (cells.get p)) ↔ ∀ e ∈ cells.toList, P e.1 e.2 := by
  constructor
  · rintro h ⟨p, c⟩ he
    rw [← (mem_toList.mp he).1]
    exact h p
  · intro h p
    cases hp : cells.find? p with
    | none =>
      rw [find?_eq_none_iff.mp hp]
      exact hblank p
    | some c =>
      obtain ⟨rfl, hc⟩ := find?_eq_some_iff.mp hp
      exact h _ (mem_toList.mpr ⟨rfl, hc⟩)

/-- What a position shows is known if every entry for it says the same, and so does the old cell if
there is none. -/
theorem get_setAll_eq {entries : List (Position × Cell)} (hmem : ∀ d, (p, d) ∈ entries → d = c)
    (hrest : (∀ d, (p, d) ∉ entries) → cells.get p = c) : (cells.setAll entries).get p = c := by
  induction entries generalizing cells with
  | nil => exact hrest fun _ => List.not_mem_nil
  | cons e rest ih =>
    show ((cells.set e.1 e.2).setAll rest).get p = c
    refine ih (fun d hd => hmem d (List.mem_cons_of_mem _ hd)) fun habsent => ?_
    -- no later entry is for `p`, so it shows the first one or the old cell
    by_cases hp : p = e.1
    · subst hp
      rw [get_set_self]
      exact hmem e.2 List.mem_cons_self
    · rw [get_set_other _ _ hp]
      refine hrest fun d hd => ?_
      rcases List.mem_cons.mp hd with rfl | hd
      · exact hp rfl
      · exact habsent d hd

/-- Changing cells at distinct positions changes each of them once and no other. -/
theorem get_update {positions : List Position} (f : Cell → Cell) (hnodup : positions.Nodup) :
    (cells.update positions f).get p =
      if p ∈ positions then f (cells.get p) else cells.get p := by
  induction positions generalizing cells with
  | nil => rfl
  | cons q rest ih =>
    obtain ⟨hq, hrest⟩ := List.nodup_cons.mp hnodup
    show ((cells.set q (f (cells.get q))).update rest f).get p = _
    rw [ih hrest]
    by_cases hp : p = q
    · -- `p` is not listed again, so the rest leaves it alone
      subst hp
      rw [if_neg hq, get_set_self, if_pos List.mem_cons_self]
    · rw [get_set_other _ _ hp]
      simp only [List.mem_cons, hp, false_or]

/-- The positions of a block are listed once. -/
theorem nodup_positions_block (b : Block) : b.positions.Nodup := by
  rw [Block.positions, List.nodup_flatMap]
  constructor
  · intro row _
    refine List.Nodup.filterMap (fun col col' p h h' => ?_) List.nodup_range'
    rw [Option.mem_def, Position.at?_eq_some_iff] at h h'
    exact h.2.symm.trans h'.2
  · refine List.Pairwise.imp ?_ List.nodup_range'
    intro row row' hne p hp hp'
    obtain ⟨col, -, hcol⟩ := List.mem_filterMap.mp hp
    obtain ⟨col', -, hcol'⟩ := List.mem_filterMap.mp hp'
    rw [Position.at?_eq_some_iff] at hcol hcol'
    exact hne (hcol.1.symm.trans hcol'.1)

/-- Changing the cells of a block changes them and no others. -/
theorem get_update_block (f : Cell → Cell) (b : Block) :
    (cells.update b.positions f).get p = if b.contains p then f (cells.get p) else cells.get p := by
  rw [get_update f (nodup_positions_block b)]
  simp only [Block.mem_positions]

/-! ## Moving cells -/

/-- Entries moved along `f`, as members. -/
theorem mem_moved {f : Position → Option Position} {entries : List (Position × Cell)} :
    (q, c) ∈ (entries.filterMap fun e => (f e.1).map fun q => (q, e.2)) ↔
      ∃ p, (p, c) ∈ entries ∧ f p = some q := by
  simp only [List.mem_filterMap, Option.map_eq_some_iff, Prod.mk.injEq]
  constructor
  · rintro ⟨⟨p, c'⟩, he, q', hf, rfl, rfl⟩
    exact ⟨p, he, hf⟩
  · rintro ⟨p, he, hf⟩
    exact ⟨(p, c), he, q, hf, rfl, rfl⟩

/-- What a position shows after a move is known if every used cell that goes there says the same, and
so does a blank cell if none goes there. -/
theorem get_relocate_eq {f : Position → Option Position}
    (hmem : ∀ p, cells.get p ≠ .blank → f p = some q → cells.get p = c)
    (hrest : (∀ p, cells.get p ≠ .blank → f p ≠ some q) → .blank = c) :
    (cells.relocate f).get q = c := by
  refine get_setAll_eq ?_ ?_
  · intro d hd
    obtain ⟨p, hp, hf⟩ := mem_moved.mp hd
    obtain ⟨rfl, hused⟩ := mem_toList.mp hp
    exact hmem p (Cell.isBlank_eq_false_iff.mp hused) hf
  · intro habsent
    rw [get_empty]
    refine hrest fun p hp hf => ?_
    have hused := Cell.isBlank_eq_false_iff.mpr hp
    exact habsent _ (mem_moved.mpr ⟨p, mem_toList.mpr ⟨rfl, hused⟩, hf⟩)

/-- Cells moved along `f` are found through the partial inverse `g` of `f`. -/
theorem get_relocate {f g : Position → Option Position}
    (hinv : ∀ p q, f p = some q ↔ g q = some p) (q : Position) :
    (cells.relocate f).get q = ((g q).map cells.get).getD .blank := by
  refine get_relocate_eq ?_ ?_
  · intro p _ hf
    rw [(hinv p q).mp hf]
    rfl
  · intro habsent
    cases hg : g q with
    | none => rfl
    | some p =>
      -- a used cell at `p` would have been moved to `q`
      by_contra hne
      exact habsent p (Ne.symm hne) ((hinv p q).mpr hg)

/-- Where blank cells go does not matter. -/
theorem relocate_congr {f g : Position → Option Position}
    (h : ∀ p, cells.get p ≠ .blank → f p = g p) : cells.relocate f = cells.relocate g := by
  rw [relocate, relocate]
  congr 1
  refine List.filterMap_congr fun ⟨p, c⟩ he => ?_
  obtain ⟨rfl, hused⟩ := mem_toList.mp he
  rw [h p (Cell.isBlank_eq_false_iff.mp hused)]

end Cells

/-! ## The view by row and column numbers -/

/-- The grid has a first row. -/
theorem one_mem_rows : 1 ≤ 1 ∧ 1 ≤ maxRows := by
  decide

/-- The grid has a first column. -/
theorem one_mem_columns : 1 ≤ 1 ∧ 1 ≤ maxColumns := by
  decide

theorem Grid.Position.at?_eq_none_iff {row col : Nat} :
    Position.at? row col = none ↔
      ¬((1 ≤ row ∧ row ≤ maxRows) ∧ (1 ≤ col ∧ col ≤ maxColumns)) := by
  unfold Position.at?
  split <;> simp_all

namespace Cells

variable {cells : Cells} {p : Position}

@[simp] theorem getAt_row_col (cells : Cells) (p : Position) :
    cells.getAt p.row p.col = cells.get p := by
  rw [getAt, Position.at?_row_col]
  rfl

theorem getAt_of_not_within (cells : Cells) {row col : Nat}
    (h : ¬((1 ≤ row ∧ row ≤ maxRows) ∧ (1 ≤ col ∧ col ≤ maxColumns))) :
    cells.getAt row col = .blank := by
  rw [getAt, Position.at?_eq_none_iff.mpr h]
  rfl

/-- Two collections of cells that agree in every row and column of the grid are equal. -/
theorem ext_getAt {a b : Cells}
    (h : ∀ row col, 1 ≤ row → row ≤ maxRows → a.getAt row col = b.getAt row col) : a = b := by
  refine Cells.ext fun p => ?_
  rw [← getAt_row_col, ← getAt_row_col]
  exact h p.row p.col p.row_mem.1 p.row_mem.2

end Cells

end SheetScript
