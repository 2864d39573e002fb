import Mathlib.Logic.Function.Iterate
import SheetScript.Proofs.Footprints
import SheetScript.Proofs.RowMacros

/-!
# Lines that move

Inserting and deleting lines moves whole lines along their axis. Several lines at once are one line
several times, and a deletion right after an insertion gives back all cells but those that the insertion
pushed off the grid.

- `Span.inserted`, `Span.deleted`: where a line goes.
- `MovesLines`: maps of positions that move whole lines.
- `Cells.MovedAlong`: cells that moved with their lines; none were merged or changed.
- `Span.eq_iterate`: what is done to several lines is done to one of them several times.
- `Sheet.insertLines_eq_iterate`, `Sheet.deleteLines_eq_iterate`: line by line.
- `Sheet.insertedAt_eq_none_iff`: what an insertion pushes off the grid.
- `Workbook.insert_delete_lines`: all of it for the calls on a workbook.
-/

namespace SheetScript

open Grid

namespace Grid

/-! ## Lines and positions -/

/-- The axis at a right angle. -/
def Axis.other : Axis → Axis
  | .rows => .columns
  | .columns => .rows

namespace Position

variable {p q : Position} {axis : Axis} {k : Nat}

/-- The line of a position is one of the grid. -/
theorem line_mem (p : Position) (axis : Axis) : 1 ≤ p.line axis ∧ p.line axis ≤ axis.limit := by
  cases axis with
  | rows => exact p.row_mem
  | columns => exact p.col_mem

/-- A position is told by its two lines. -/
theorem ext_line (h : p.line axis = q.line axis) (hother : p.line axis.other = q.line axis.other) :
    p = q := by
  cases axis with
  | rows => exact Position.ext h hother
  | columns => exact Position.ext hother h

/-- Every line of an axis has a position beside `p`. -/
theorem exists_line (p : Position) (h : 1 ≤ k ∧ k ≤ axis.limit) :
    ∃ q : Position, q.line axis = k ∧ q.line axis.other = p.line axis.other := by
  cases axis with
  | rows => exact ⟨⟨k, p.col, h, p.col_mem⟩, rfl, rfl⟩
  | columns => exact ⟨⟨p.row, k, p.row_mem, h⟩, rfl, rfl⟩

end Position

namespace Span

variable {lines : Span} {k m : Nat}

/-- Where a line goes when lines are inserted, unless it leaves the grid. -/
def inserted (lines : Span) (k : Nat) : Option Nat :=
  if k < lines.first then some k
  else if k + lines.count ≤ lines.axis.limit then some (k + lines.count)
  else none

/-- Where a line goes when lines are deleted, unless it is one of them. -/
def deleted (lines : Span) (k : Nat) : Option Nat :=
  if k < lines.first then some k
  else if k ≤ lines.last then none
  else some (k - lines.count)

/-- Lines before an insertion stay; the others go down by its count, as long as they stay on the grid. -/
theorem inserted_eq_some_iff :
    lines.inserted k = some m ↔
      (k < lines.first ∧ m = k) ∨
        (lines.first ≤ k ∧ m = k + lines.count ∧ m ≤ lines.axis.limit) := by
  unfold inserted
  split_ifs <;> simp only [Option.some.injEq, false_iff] <;> omega

/-- Lines before a deletion stay, and those behind it come up by its count. -/
theorem deleted_eq_some_iff :
    lines.deleted k = some m ↔
      (k < lines.first ∧ m = k) ∨ (lines.last < k ∧ k = m + lines.count) := by
  have hcount := lines.first_add_count
  have hordered := lines.ordered
  unfold deleted
  split_ifs <;> simp only [Option.some.injEq, false_iff] <;> omega

/-- The first of some lines. -/
def firstLine (lines : Span) : Span where
  axis := lines.axis
  first := lines.first
  last := lines.first
  ordered := ⟨lines.ordered.1, Nat.le_refl _⟩
  within := Nat.le_trans lines.ordered.2 lines.within

/-- Some lines without the last one. -/
def withoutLast (lines : Span) (h : lines.first < lines.last) : Span where
  axis := lines.axis
  first := lines.first
  last := lines.last - 1
  ordered := ⟨lines.ordered.1, by omega⟩
  within := Nat.le_trans (Nat.sub_le _ _) lines.within

@[simp] theorem count_firstLine (lines : Span) : lines.firstLine.count = 1 := by
  simp [firstLine, count]

/-- Without its last line a span has one line less. -/
theorem count_withoutLast (h : lines.first < lines.last) :
    (lines.withoutLast h).count + 1 = lines.count := by
  simp only [withoutLast, count]
  omega

theorem firstLine_eq_self (h : lines.last ≤ lines.first) : lines.firstLine = lines := by
  have hordered := lines.ordered
  exact Span.ext rfl rfl (by simp only [firstLine]; omega)

/-- What can be done to the last line after the other ones is done line by line, each time to the first
one. -/
theorem eq_iterate {α : Type} {f : Span → α → α}
    (hlast : ∀ (lines : Span) (h : lines.first < lines.last) (a : α),
      f lines.firstLine (f (lines.withoutLast h) a) = f lines a)
    (lines : Span) (a : α) : f lines a = (f lines.firstLine)^[lines.count] a := by
  -- by induction on the number of lines
  induction hn : lines.count generalizing lines with
  | zero => exact absurd hn (Nat.ne_of_gt lines.count_pos)
  | succ n ih =>
    rcases Nat.lt_or_ge lines.first lines.last with h | h
    · have hcount : (lines.withoutLast h).count = n :=
        Nat.succ.inj ((count_withoutLast h).trans hn)
      rw [Function.iterate_succ_apply', ← hlast lines h, ih (lines.withoutLast h) hcount]
      rfl
    · have hone := count_firstLine lines
      rw [firstLine_eq_self h] at hone ⊢
      obtain rfl : n = 0 := Nat.succ.inj (hn.symm.trans hone)
      rfl

/-- The last line is inserted where the first one is, behind which the other ones are already. -/
theorem bind_inserted (h : lines.first < lines.last) (k : Nat) :
    ((lines.withoutLast h).inserted k).bind lines.firstLine.inserted = lines.inserted k := by
  have hcount := count_withoutLast h
  refine Option.ext fun m => ?_
  rw [Option.bind_eq_some_iff]
  simp only [inserted_eq_some_iff, count_firstLine]
  simp only [firstLine, withoutLast] at hcount ⊢
  constructor
  · rintro ⟨l, hl, hm⟩
    omega
  · intro hm
    rcases Nat.lt_or_ge k lines.first with hk | hk
    · exact ⟨k, by omega, by omega⟩
    · exact ⟨m - 1, by omega, by omega⟩

/-- Once the other lines are deleted, the last one is where the first one was. -/
theorem bind_deleted (h : lines.first < lines.last) (k : Nat) :
    ((lines.withoutLast h).deleted k).bind lines.firstLine.deleted = lines.deleted k := by
  have hcount := count_withoutLast h
  have hlast := lines.first_add_count
  refine Option.ext fun m => ?_
  rw [Option.bind_eq_some_iff]
  simp only [deleted_eq_some_iff, count_firstLine]
  simp only [firstLine, withoutLast] at hcount ⊢
  constructor
  · rintro ⟨l, hl, hm⟩
    omega
  · intro hm
    rcases Nat.lt_or_ge k lines.first with hk | hk
    · exact ⟨k, by omega, by omega⟩
    · exact ⟨m + 1, by omega, by omega⟩

/-- Whether lines that are inserted push what is at `p` off the grid. -/
def PushesOff (lines : Span) (p : Position) : Prop :=
  lines.first ≤ p.line lines.axis ∧ lines.axis.limit - lines.count < p.line lines.axis

instance (lines : Span) : DecidablePred lines.PushesOff := fun _ =>
  inferInstanceAs (Decidable (_ ∧ _))

end Span

end Grid

/-! ## Positions that move with their lines -/

/-- Whether a map of positions moves whole lines of an axis along `move`. -/
def MovesLines (axis : Axis) (f : Position → Option Position) (move : Nat → Option Nat) : Prop :=
  ∀ p q, f p = some q ↔
    move (p.line axis) = some (q.line axis) ∧ q.line axis.other = p.line axis.other

/-- Whether lines that are on the grid stay on it. -/
def StaysOnGrid (axis : Axis) (move : Nat → Option Nat) : Prop :=
  ∀ k m, 1 ≤ k ∧ k ≤ axis.limit → move k = some m → 1 ≤ m ∧ m ≤ axis.limit

section

variable {axis : Axis} {f g h : Position → Option Position} {move move' move'' : Nat → Option Nat}

/-- Two moves in a row are one move, if the lines end up where it takes them. -/
theorem MovesLines.bind_eq (hf : MovesLines axis f move) (hg : MovesLines axis g move')
    (hh : MovesLines axis h move'') (hgrid : StaysOnGrid axis move)
    (hmove : ∀ k, (move k).bind move' = move'' k) : (fun p => (f p).bind g) = h := by
  funext p
  refine Option.ext fun r => ?_
  rw [hh p r, ← hmove, Option.bind_eq_some_iff, Option.bind_eq_some_iff]
  constructor
  · rintro ⟨q, hq, hr⟩
    obtain ⟨hline, hother⟩ := (hf p q).mp hq
    obtain ⟨hline', hother'⟩ := (hg q r).mp hr
    exact ⟨⟨q.line axis, hline, hline'⟩, hother'.trans hother⟩
  · rintro ⟨⟨m, hline, hline'⟩, hother⟩
    obtain ⟨q, rfl, hq⟩ := p.exists_line (hgrid _ _ (p.line_mem axis) hline)
    exact ⟨q, (hf p q).mpr ⟨hline, hq⟩, (hg q r).mpr ⟨hline', hother.trans hq.symm⟩⟩

/-- What is on a line that is lost is lost, and nothing else. -/
theorem MovesLines.eq_none_iff {p : Position} (hf : MovesLines axis f move)
    (hgrid : StaysOnGrid axis move) : f p = none ↔ move (p.line axis) = none := by
  constructor
  · intro hp
    cases hm : move (p.line axis) with
    | none => rfl
    | some m =>
      obtain ⟨q, rfl, hother⟩ := p.exists_line (hgrid _ _ (p.line_mem axis) hm)
      rw [(hf p q).mpr ⟨hm, hother⟩] at hp
      cases hp
  · intro hm
    cases hp : f p with
    | none => rfl
    | some q =>
      rw [((hf p q).mp hp).1] at hm
      cases hm

end

/-! ## Cells that move with their lines -/

/-- The cells `after` are the cells `before`, with every line of an axis moved along `move`. -/
structure Cells.MovedAlong (axis : Axis) (move : Nat → Option Nat) (before after : Cells) :
    Prop where
  /-- No two lines are merged. -/
  injective : ∀ k l m, move k = some m → move l = some m → k = l
  /-- What stands on a line that is not lost is found on the line it goes to, in the same place. -/
  exists_after : ∀ p m, move (p.line axis) = some m →
    ∃ q : Position, q.line axis = m ∧ q.line axis.other = p.line axis.other ∧
      after.get q = before.get p
  /-- Nothing else is found there. -/
  exists_before : ∀ q, after.get q ≠ .blank →
    ∃ p : Position, move (p.line axis) = some (q.line axis) ∧
      p.line axis.other = q.line axis.other ∧ before.get p = after.get q

namespace Cells

variable {cells : Cells} {axis : Axis} {move move' move'' : Nat → Option Nat}
  {f f' g g' h : Position → Option Position}

/-- Moving cells along a map that moves lines. -/
theorem movedAlong_relocate (hf : MovesLines axis f move) (hgrid : StaysOnGrid axis move)
    (hinjective : ∀ k l m, move k = some m → move l = some m → k = l) :
    cells.MovedAlong axis move (cells.relocate f) := by
  -- only one position goes to `q`, so what is there is known
  have hget : ∀ {p q}, f p = some q → (cells.relocate f).get q = cells.get p := by
    intro p q hpq
    refine Cells.get_relocate_eq ?_ ?_
    · intro p' _ hp'
      obtain ⟨hline, hother⟩ := (hf p q).mp hpq
      obtain ⟨hline', hother'⟩ := (hf p' q).mp hp'
      rw [Position.ext_line (hinjective _ _ _ hline' hline) (hother'.symm.trans hother)]
    · intro habsent
      by_contra hne
      exact habsent p (Ne.symm hne) hpq
  refine ⟨hinjective, ?_, ?_⟩
  · intro p m hm
    obtain ⟨q, rfl, hother⟩ := p.exists_line (hgrid _ _ (p.line_mem axis) hm)
    exact ⟨q, rfl, hother, hget ((hf p q).mpr ⟨hm, hother⟩)⟩
  · intro q hq
    obtain ⟨p, hp⟩ : ∃ p, f p = some q := by
      by_contra hnone
      refine hq (Cells.get_relocate_eq ?_ fun _ => rfl)
      intro p _ hp
      exact absurd ⟨p, hp⟩ hnone
    obtain ⟨hline, hother⟩ := (hf p q).mp hp
    exact ⟨p, hline, hother.symm, (hget hp).symm⟩

/-- Cells that move twice move once, along the two maps in a row. -/
theorem relocate_relocate (hf : ∀ p q, f p = some q ↔ f' q = some p)
    (hg : ∀ p q, g p = some q ↔ g' q = some p) :
    (cells.relocate f).relocate g = cells.relocate fun p => (f p).bind g := by
  have hcomp : ∀ p q, (f p).bind g = some q ↔ (g' q).bind f' = some p := by
    intro p q
    simp only [Option.bind_eq_some_iff, hf, hg]
    exact exists_congr fun r => and_comm
  refine Cells.ext fun q => ?_
  rw [get_relocate hg, get_relocate hcomp]
  cases g' q with
  | none => rfl
  | some r => exact get_relocate hf r

/-- Cells whose lines move twice move along any map that takes the lines there at once. -/
theorem relocate_relocate_lines (hf : ∀ p q, f p = some q ↔ f' q = some p)
    (hg : ∀ p q, g p = some q ↔ g' q = some p) (hmove : MovesLines axis f move)
    (hmove' : MovesLines axis g move') (hmove'' : MovesLines axis h move'')
    (hgrid : StaysOnGrid axis move) (hlines : ∀ k, (move k).bind move' = move'' k) :
    (cells.relocate f).relocate g = cells.relocate h := by
  rw [relocate_relocate hf hg, hmove.bind_eq hmove' hmove'' hgrid hlines]

end Cells

/-! ## Sheets -/

namespace Sheet

variable {lines : Span} {p : Position}

/-- An insertion moves whole lines. -/
theorem movesLines_insertedAt (lines : Span) :
    MovesLines lines.axis (insertedAt lines) lines.inserted := by
  intro p q
  have hrow := q.row_mem
  have hcol := q.col_mem
  rw [Span.inserted_eq_some_iff, insertedAt]
  cases lines.axis with
  | rows =>
    simp only [Position.line, Axis.other, Axis.limit]
    split_ifs <;> simp only [Option.some.injEq, Position.at?_eq_some_iff, Position.ext_iff] <;> omega
  | columns =>
    simp only [Position.line, Axis.other, Axis.limit]
    split_ifs <;> simp only [Option.some.injEq, Position.at?_eq_some_iff, Position.ext_iff] <;> omega

theorem movesLines_deletedAt (lines : Span) :
    MovesLines lines.axis (deletedAt lines) lines.deleted := by
  intro p q
  have hp := p.line_mem lines.axis
  have hcount := lines.first_add_count
  have hordered := lines.ordered
  rw [deletedAt_eq_some_iff, movesLines_insertedAt, Span.inserted_eq_some_iff,
    Span.deleted_eq_some_iff]
  omega

theorem staysOnGrid_inserted (lines : Span) : StaysOnGrid lines.axis lines.inserted := by
  intro k m hk hm
  rw [Span.inserted_eq_some_iff] at hm
  omega

/-- A deletion takes no line past the edge of the grid. -/
theorem staysOnGrid_deleted (lines : Span) : StaysOnGrid lines.axis lines.deleted := by
  intro k m hk hm
  have hcount := lines.first_add_count
  have hordered := lines.ordered
  rw [Span.deleted_eq_some_iff] at hm
  omega

/-- Inserted lines push every line from the first one on away from them. -/
theorem movedAlong_insertLines (s : Sheet) (lines : Span) :
    s.cells.MovedAlong lines.axis lines.inserted (s.insertLines lines).cells := by
  refine Cells.movedAlong_relocate (movesLines_insertedAt lines) (staysOnGrid_inserted lines) ?_
  intro k l m hk hl
  rw [Span.inserted_eq_some_iff] at hk hl
  omega

/-- Deleted lines are lost, and every line behind them closes up. -/
theorem movedAlong_deleteLines (s : Sheet) (lines : Span) :
    s.cells.MovedAlong lines.axis lines.deleted (s.deleteLines lines).cells := by
  refine Cells.movedAlong_relocate (movesLines_deletedAt lines) (staysOnGrid_deleted lines) ?_
  intro k l m hk hl
  have hcount := lines.first_add_count
  have hordered := lines.ordered
  rw [Span.deleted_eq_some_iff] at hk hl
  omega

/-! ### One line at a time -/

/-- The last line may be inserted after the other ones. -/
theorem insertLines_withoutLast (s : Sheet) (h : lines.first < lines.last) :
    (s.insertLines (lines.withoutLast h)).insertLines lines.firstLine = s.insertLines lines := by
  have hcells : (s.cells.relocate (insertedAt (lines.withoutLast h))).relocate
      (insertedAt lines.firstLine) = s.cells.relocate (insertedAt lines) :=
    Cells.relocate_relocate_lines (fun _ _ => deletedAt_eq_some_iff.symm)
      (fun _ _ => deletedAt_eq_some_iff.symm) (movesLines_insertedAt (lines.withoutLast h))
      (movesLines_insertedAt lines.firstLine) (movesLines_insertedAt lines)
      (staysOnGrid_inserted (lines.withoutLast h)) (Span.bind_inserted h)
  exact congrArg (fun cells => ({ s with cells } : Sheet)) hcells

/-- The last line may be deleted after the other ones. -/
theorem deleteLines_withoutLast (s : Sheet) (h : lines.first < lines.last) :
    (s.deleteLines (lines.withoutLast h)).deleteLines lines.firstLine = s.deleteLines lines := by
  have hcells : (s.cells.relocate (deletedAt (lines.withoutLast h))).relocate
      (deletedAt lines.firstLine) = s.cells.relocate (deletedAt lines) :=
    Cells.relocate_relocate_lines (fun _ _ => deletedAt_eq_some_iff)
      (fun _ _ => deletedAt_eq_some_iff) (movesLines_deletedAt (lines.withoutLast h))
      (movesLines_deletedAt lines.firstLine) (movesLines_deletedAt lines)
      (staysOnGrid_deleted (lines.withoutLast h)) (Span.bind_deleted h)
  exact congrArg (fun cells => ({ s with cells } : Sheet)) hcells

/-- Several lines are inserted one by one, each where the first of them is to be. -/
theorem insertLines_eq_iterate (s : Sheet) (lines : Span) :
    s.insertLines lines = (fun t => t.insertLines lines.firstLine)^[lines.count] s :=
  Span.eq_iterate (f := fun lines t => insertLines t lines)
    (fun _ h t => insertLines_withoutLast t h) lines s

/-- Several lines are deleted one by one, each where the first of them was. -/
theorem deleteLines_eq_iterate (s : Sheet) (lines : Span) :
    s.deleteLines lines = (fun t => t.deleteLines lines.firstLine)^[lines.count] s :=
  Span.eq_iterate (f := fun lines t => deleteLines t lines)
    (fun _ h t => deleteLines_withoutLast t h) lines s

/-! ### There and back -/

/-- A cell is lost in an insertion just when it is pushed off the grid. -/
theorem insertedAt_eq_none_iff : insertedAt lines p = none ↔ lines.PushesOff p := by
  have hcount := lines.first_add_count
  have hordered := lines.ordered
  have hwithin := lines.within
  rw [(movesLines_insertedAt lines).eq_none_iff (staysOnGrid_inserted lines), Span.inserted,
    Span.PushesOff]
  split_ifs <;> simp only [false_iff, true_iff] <;> omega

theorem isSome_insertedAt_iff : (insertedAt lines p).isSome ↔ ¬lines.PushesOff p := by
  rw [Option.isSome_iff_ne_none, Ne, insertedAt_eq_none_iff]

/-- There is room for more lines when no cell in use is pushed off the grid. -/
theorem hasRoom_iff {s : Sheet} :
    s.HasRoom lines ↔ ∀ p, s.cells.get p ≠ .blank → ¬lines.PushesOff p := by
  simp only [HasRoom, isSome_insertedAt_iff]

end Sheet

/-! ## Calls on a workbook -/

/-- A call made several times in a row. -/
def repeatCall {σ : Type} (call : Call σ Unit) : Nat → Call σ Unit
  | 0 => pure ()
  | n + 1 => do
    call
    repeatCall call n

namespace Workbook

variable {w : Workbook} {s t : Sheet} {lines : Span} {first second : Call Workbook Unit}

/-- Inserting lines the way their axis asks for. -/
def insertion (lines : Span) : Call Workbook Unit :=
  host.insert lines lines.insertShift

/-- Deleting lines the way their axis asks for. -/
def deletion (lines : Span) : Call Workbook Unit :=
  host.delete lines lines.deleteShift

/-- A call succeeds and makes `t` of the active sheet. Nothing else in the workbook changes. -/
def Leaves (w : Workbook) (call : Call Workbook Unit) (t : Sheet) : Prop :=
  call.run w = (.ok (), w.withSheet w.activeIndex t)

/-- An insertion is never refused as long as there is an active sheet. -/
theorem leaves_insertion (hs : w.activeSheet? = some s) (lines : Span) :
    w.Leaves (insertion lines) (s.insertLines lines) := by
  have hrun := run_act (·.insert lines lines.insertShift) w
  rwa [insert_eq hs] at hrun

theorem leaves_deletion (hs : w.activeSheet? = some s) (lines : Span) :
    w.Leaves (deletion lines) (s.deleteLines lines) := by
  have hrun := run_act (·.delete lines lines.deleteShift) w
  rwa [delete_eq hs] at hrun

/-- One call after another. -/
theorem Leaves.bind (hfirst : w.Leaves first s)
    (hsecond : (w.withSheet w.activeIndex s).Leaves second t) :
    w.Leaves (do first; second) t := by
  rw [Leaves, run_step_bind, hfirst]
  rw [Leaves, activeIndex_withSheet, withSheet_withSheet] at hsecond
  exact hsecond

/-- Calls that change the active sheet in the same way, one after another. -/
theorem leaves_repeatCall {call : Call Workbook Unit} {f : Sheet → Sheet}
    (hcall : ∀ {v : Workbook} {s : Sheet}, v.activeSheet? = some s → v.Leaves call (f s))
    (hs : w.activeSheet? = some s) (n : Nat) : w.Leaves (repeatCall call n) (f^[n] s) := by
  induction n generalizing w s with
  | zero => exact congrArg (Except.ok (), ·) (withSheet_self hs).symm
  | succ n ih =>
    rw [Function.iterate_succ_apply]
    exact (hcall hs).bind (ih (activeSheet?_withSheet hs (f s)))

/-- Inserting or deleting lines on the active sheet moves its cells with their lines, and it is the same
to insert or delete the lines one by one. A deletion right after the insertion of the same lines gives
back all cells but those that the insertion pushed off the grid, so the workbook is what it was if there
are none. -/
theorem insert_delete_lines (hw : w.sheets ≠ []) (lines : Span) :
    ∃ s inserted deleted kept, w.activeSheet? = some s ∧
      (w.Leaves (insertion lines) { s with cells := inserted } ∧
        w.Leaves (repeatCall (insertion lines.firstLine) lines.count)
          { s with cells := inserted } ∧
        s.cells.MovedAlong lines.axis lines.inserted inserted) ∧
      (w.Leaves (deletion lines) { s with cells := deleted } ∧
        w.Leaves (repeatCall (deletion lines.firstLine) lines.count) { s with cells := deleted } ∧
        s.cells.MovedAlong lines.axis lines.deleted deleted) ∧
      (w.Leaves (do insertion lines; deletion lines) { s with cells := kept } ∧
        (∀ p, kept.get p = if lines.PushesOff p then .blank else s.cells.get p) ∧
        ((∀ p, s.cells.get p ≠ .blank → ¬lines.PushesOff p) →
          (do insertion lines; deletion lines).run w = (.ok (), w))) := by
  obtain ⟨s, hs⟩ := exists_activeSheet? hw
  have hinserted := leaves_insertion hs lines
  have hdeleted := leaves_deletion hs lines
  have hkept := hinserted.bind
    (leaves_deletion (activeSheet?_withSheet hs (s.insertLines lines)) lines)
  have hinsertedOneByOne := leaves_repeatCall
    (fun hs => leaves_insertion hs lines.firstLine) hs lines.count
  have hdeletedOneByOne := leaves_repeatCall
    (fun hs => leaves_deletion hs lines.firstLine) hs lines.count
  rw [← Sheet.insertLines_eq_iterate] at hinsertedOneByOne
  rw [← Sheet.deleteLines_eq_iterate] at hdeletedOneByOne
  refine ⟨s, (s.insertLines lines).cells, (s.deleteLines lines).cells,
    ((s.insertLines lines).deleteLines lines).cells, hs,
    ⟨hinserted, hinsertedOneByOne, s.movedAlong_insertLines lines⟩,
    ⟨hdeleted, hdeletedOneByOne, s.movedAlong_deleteLines lines⟩,
    hkept, fun p => ?_, fun hroom => ?_⟩
  · rw [Sheet.get_deleteLines_insertLines]
    simp only [Sheet.isSome_insertedAt_iff, ite_not]
  · rw [Leaves, Sheet.deleteLines_insertLines (Sheet.hasRoom_iff.mpr hroom),
      withSheet_self hs] at hkept
    exact hkept

/-- The rows from the second to the fourth. -/
def secondToFourth : Span :=
  ⟨.rows, 2, 4, by decide, by decide⟩

/-- Three rows inserted one by one: what was in the second row is in the fifth one. It is back in its
place once the rows are deleted again. -/
theorem insert_delete_lines_threeRows :
    threeRows.sheets ≠ [] ∧ ∃ inserted,
      threeRows.Leaves (repeatCall (insertion secondToFourth.firstLine) 3)
        { Sheet.threeRows with cells := inserted } ∧
      inserted.getAt 5 1 = { value := "b" } ∧
      (do insertion secondToFourth; deletion secondToFourth).run threeRows =
        (.ok (), threeRows) := by
  have hne : threeRows.sheets ≠ [] := by decide
  obtain ⟨s, inserted, deleted, kept, hs, ⟨-, hinserted, hmoved⟩, -, -, -, hback⟩ :=
    insert_delete_lines hne secondToFourth
  obtain rfl : Sheet.threeRows = s := Option.some.inj hs
  obtain ⟨q, hrow, hcol, hq⟩ := hmoved.exists_after ⟨2, 1, by decide, by decide⟩ 5 rfl
  refine ⟨hne, inserted, hinserted, ?_, hback (Sheet.hasRoom_iff.mp (by decide))⟩
  have hcell : inserted.getAt q.row q.col = { value := "b" } :=
    (Cells.getAt_row_col inserted q).trans (hq.trans (by decide))
  rwa [show q.row = 5 from hrow, show q.col = 1 from hcol] at hcell

end Workbook

end SheetScript
