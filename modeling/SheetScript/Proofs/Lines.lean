import SheetScript.Proofs.Cells

/-!
# Whole lines and pasted blocks

What inserting lines, deleting lines and pasting a block do to the cells of a sheet.

- `deletedAt_eq_some_iff`: deletion and insertion move cells along partial maps that are inverse to
  each other, so each of the two is read through the other.
- `get_deleteLines_insertLines`, `deleteLines_insertLines`: deleting lines right after they were inserted
  gives the sheet back, unless the insertion pushed a used cell off the grid.
- `get_pasteBlock`: the pasted area shows the source as it was, everything else is unchanged.
- `getAt_insertLines`, `getAt_deleteLines`, `getAt_pasteRow`: the same for rows, by number.
-/

namespace SheetScript

open Grid

namespace Sheet

variable {s : Sheet} {lines : Span} {p q : Position}

/-! ## Insertion and deletion -/

/-- Deletion takes `p` to `q` exactly when insertion takes `q` to `p`. -/
theorem deletedAt_eq_some_iff : deletedAt lines p = some q ↔ insertedAt lines q = some p := by
  have hcount := lines.first_add_count
  have hordered := lines.ordered
  unfold deletedAt insertedAt
  -- both sides are the same sum and difference of line numbers
  cases lines.axis with
  | rows =>
    simp only
    split_ifs with h₁ h₂ h₃ h₄ h₅ <;>
      simp only [Option.some.injEq, Position.at?_eq_some_iff, Position.ext_iff, false_iff] <;>
      omega
  | columns =>
    simp only
    split_ifs with h₁ h₂ h₃ h₄ h₅ <;>
      simp only [Option.some.injEq, Position.at?_eq_some_iff, Position.ext_iff, false_iff] <;>
      omega

theorem get_insertLines (s : Sheet) (lines : Span) (q : Position) :
    (s.insertLines lines).cells.get q = ((deletedAt lines q).map s.cells.get).getD .blank :=
  Cells.get_relocate (fun _ _ => deletedAt_eq_some_iff.symm) q

theorem get_deleteLines (s : Sheet) (lines : Span) (q : Position) :
    (s.deleteLines lines).cells.get q = ((insertedAt lines q).map s.cells.get).getD .blank :=
  Cells.get_relocate (fun _ _ => deletedAt_eq_some_iff) q

/-- Whether there is room for more lines: no used cell is pushed off the grid by them. -/
def HasRoom (s : Sheet) (lines : Span) : Prop :=
  ∀ p, s.cells.get p ≠ .blank → (insertedAt lines p).isSome

instance (s : Sheet) (lines : Span) : Decidable (s.HasRoom lines) :=
  decidable_of_iff (∀ e ∈ s.cells.toList, e.2 ≠ .blank → (insertedAt lines e.1).isSome)
    (Cells.forall_get_iff (P := fun p c => c ≠ .blank → (insertedAt lines p).isSome)
      fun _ h => absurd rfl h).symm

/-- Deleting lines right after they were inserted takes away what the insertion pushed off the grid, and
nothing else. -/
theorem get_deleteLines_insertLines (s : Sheet) (lines : Span) (p : Position) :
    ((s.insertLines lines).deleteLines lines).cells.get p =
      if (insertedAt lines p).isSome then s.cells.get p else .blank := by
  rw [get_deleteLines]
  cases hp : insertedAt lines p with
  | none => rfl
  | some q =>
    show (s.insertLines lines).cells.get q = s.cells.get p
    rw [get_insertLines, deletedAt_eq_some_iff.mpr hp]
    rfl

/-- Lines that were inserted into a sheet with room for them are gone without a trace once they are
deleted. -/
theorem deleteLines_insertLines (h : s.HasRoom lines) :
    (s.insertLines lines).deleteLines lines = s := by
  have hcells : ((s.insertLines lines).deleteLines lines).cells = s.cells := by
    refine Cells.ext fun p => ?_
    rw [get_deleteLines_insertLines]
    split
    next => rfl
    next hlost =>
      -- a used cell at `p` would have been pushed off the grid
      by_contra hne
      exact hlost (h p (Ne.symm hne))
  show ({ s with cells := ((s.insertLines lines).deleteLines lines).cells } : Sheet) = s
  rw [hcells]

/-! ## Pasting -/

/-- A position of the pasted area shows what the source has at the same place. -/
theorem copiedTo_eq_some_iff {source : Block} {corner : Position} :
    copiedTo source corner p = some q ↔
      (source.moveTo corner).contains q = true ∧
        p.row = source.top + (q.row - corner.row) ∧ p.col = source.left + (q.col - corner.col) := by
  have hrows := source.rows_ordered
  have hcols := source.columns_ordered
  have hq := q.row_mem
  have hq' := q.col_mem
  rw [copiedTo, Block.contains_iff (b := source.moveTo corner)]
  simp only [Block.moveTo, Block.height, Block.width]
  by_cases hp : source.contains p = true
  · rw [if_pos hp, Position.at?_eq_some_iff]
    rw [Block.contains_iff] at hp
    omega
  · rw [if_neg hp]
    rw [Block.contains_iff] at hp
    simp only [reduceCtorEq, false_iff]
    omega

theorem get_pasteBlock (s : Sheet) (source : Block) (origin : Cells) (corner q : Position) :
    (s.pasteBlock source origin corner).cells.get q =
      if (source.moveTo corner).contains q then
        origin.getAt (source.top + (q.row - corner.row)) (source.left + (q.col - corner.col))
      else s.cells.get q := by
  have hmem : ∀ {p c}, (p, c) ∈ origin.within source ↔
      (origin.get p = c ∧ c.isBlank = false) ∧ source.contains p = true := by
    intro p c
    rw [Cells.within, List.mem_filter, Cells.mem_toList]
  show ((s.cells.keep fun p => !(source.moveTo corner).contains p).setAll _).get q = _
  refine Cells.get_setAll_eq (fun c hc => ?_) fun habsent => ?_
  · obtain ⟨p, hp, hpq⟩ := Cells.mem_moved.mp hc
    obtain ⟨hq, hrow, hcol⟩ := copiedTo_eq_some_iff.mp hpq
    rw [if_pos hq, ← hrow, ← hcol, Cells.getAt_row_col]
    exact (hmem.mp hp).1.1.symm
  · rw [Cells.get_keep]
    cases hq : (source.moveTo corner).contains q with
    | false => rfl
    | true =>
      show Cell.blank = _
      rw [if_pos rfl, Cells.getAt]
      cases hat : Position.at? (source.top + (q.row - corner.row))
          (source.left + (q.col - corner.col)) with
      | none => rfl
      | some p =>
        obtain ⟨hrow, hcol⟩ := Position.at?_eq_some_iff.mp hat
        have hpq : copiedTo source corner p = some q :=
          copiedTo_eq_some_iff.mpr ⟨hq, hrow, hcol⟩
        have hin : source.contains p = true := by
          by_contra hout
          rw [copiedTo, if_neg hout] at hpq
          cases hpq
        -- a used cell at `p` would have been pasted onto `q`
        by_contra hne
        have hused := Cell.isBlank_eq_false_iff.mpr (Ne.symm hne)
        exact habsent _ (Cells.mem_moved.mpr ⟨p, hmem.mpr ⟨⟨rfl, hused⟩, hin⟩, hpq⟩)

/-! ## Rows by number -/

/-- After an insertion of rows: the rows above them, then blank rows, then the rest moved down. -/
theorem getAt_insertLines (h : lines.axis = .rows) {row : Nat} (hrow : row ≤ maxRows) (col : Nat) :
    (s.insertLines lines).cells.getAt row col =
      if row < lines.first then s.cells.getAt row col
      else if row ≤ lines.last then .blank
      else s.cells.getAt (row - lines.count) col := by
  cases hat : Position.at? row col with
  | some q =>
    obtain ⟨rfl, rfl⟩ := Position.at?_eq_some_iff.mp hat
    rw [Cells.getAt_row_col, get_insertLines, deletedAt, h]
    simp only
    split_ifs with h₁ h₂
    · rw [Cells.getAt_row_col]
      rfl
    · rfl
    · rfl
  | none =>
    -- outside the grid a cell is blank before and after
    have hout := Position.at?_eq_none_iff.mp hat
    have hfirst := lines.ordered.1
    rw [Cells.getAt_of_not_within _ hout]
    split_ifs with h₁ h₂
    · exact (Cells.getAt_of_not_within _ hout).symm
    · rfl
    · exact (Cells.getAt_of_not_within _ (by omega)).symm

/-- After a deletion of rows: the rows above them, then the rest moved up. -/
theorem getAt_deleteLines (h : lines.axis = .rows) (row col : Nat) :
    (s.deleteLines lines).cells.getAt row col =
      if row < lines.first then s.cells.getAt row col
      else s.cells.getAt (row + lines.count) col := by
  have hcount := lines.first_add_count
  have hordered := lines.ordered
  cases hat : Position.at? row col with
  | some q =>
    obtain ⟨rfl, rfl⟩ := Position.at?_eq_some_iff.mp hat
    rw [Cells.getAt_row_col, get_deleteLines, insertedAt, h]
    simp only
    split_ifs with h₁
    · rw [Cells.getAt_row_col]
      rfl
    · rfl
  | none =>
    have hout := Position.at?_eq_none_iff.mp hat
    rw [Cells.getAt_of_not_within _ hout]
    split_ifs with h₁
    · exact (Cells.getAt_of_not_within _ hout).symm
    · exact (Cells.getAt_of_not_within _ (by omega)).symm

end Sheet

namespace Grid

/-- One row as a span. -/
def Span.row (r : Nat) (h : 1 ≤ r ∧ r ≤ maxRows) : Span :=
  ⟨.rows, r, r, ⟨h.1, Nat.le_refl r⟩, h.2⟩

@[simp] theorem Span.count_row {r : Nat} (h : 1 ≤ r ∧ r ≤ maxRows) : (Span.row r h).count = 1 := by
  simp [Span.row, Span.count]

/-- A whole row as a block. -/
def Block.row (r : Nat) (h : 1 ≤ r ∧ r ≤ maxRows) : Block :=
  Block.ofSpan (Span.row r h)

theorem Block.contains_row {r : Nat} {h : 1 ≤ r ∧ r ≤ maxRows} {p : Position} :
    (Block.row r h).contains p = true ↔ p.row = r := by
  have hcol := p.col_mem
  rw [Block.contains_iff]
  simp only [Block.row, Block.ofSpan, Span.row]
  omega

end Grid

namespace Sheet

/-- After a row is pasted onto row `b`: the pasted row there, everything else unchanged. -/
theorem getAt_pasteRow {s : Sheet} {origin : Cells} {a b : Nat} {ha : 1 ≤ a ∧ a ≤ maxRows}
    {hb : 1 ≤ b ∧ b ≤ maxRows} (row col : Nat) :
    (s.pasteBlock (.row a ha) origin (Block.row b hb).topLeft).cells.getAt row col =
      if row = b then origin.getAt a col else s.cells.getAt row col := by
  cases hat : Position.at? row col with
  | some q =>
    obtain ⟨rfl, rfl⟩ := Position.at?_eq_some_iff.mp hat
    have hcol := q.col_mem
    have hmoved : ((Block.row a ha).moveTo (Block.row b hb).topLeft).contains q = true ↔
        q.row = b := by
      rw [Block.contains_iff]
      simp only [Block.row, Block.ofSpan, Span.row, Block.moveTo, Block.topLeft, Block.height,
        Block.width]
      omega
    rw [Cells.getAt_row_col, get_pasteBlock]
    by_cases hrow : q.row = b
    · rw [if_pos (hmoved.mpr hrow), if_pos hrow]
      simp only [Block.row, Block.ofSpan, Span.row, Block.topLeft, hrow]
      congr 1 <;> omega
    · rw [if_neg (fun h => hrow (hmoved.mp h)), if_neg hrow, Cells.getAt_row_col]
  | none =>
    have hout := Position.at?_eq_none_iff.mp hat
    rw [Cells.getAt_of_not_within _ hout]
    split_ifs with h₁
    · exact (Cells.getAt_of_not_within _ (by omega)).symm
    · exact (Cells.getAt_of_not_within _ hout).symm

end Sheet

end SheetScript
