import SheetScript.Proofs.Alike
import SheetScript.Proofs.TrappingCommands
import SheetScript.Proofs.TrappingHost

/-!
# Editors do not trap

Whatever an assistant replies and whatever a loaded history holds, an editor goes through it without a
trap, as long as its workbook has a sheet. A workbook never loses its last sheet, and its cells carry
their bounds with them, so this stays true after every batch. A sort that finds its keys to be in no order
does not trap: it stops everything by itself.

- `Editor.TrapFree`: the functions on the way from a reply to a changed workbook, none of which traps.
- `Editor.trapFree`: they do not.
-/

namespace SheetScript

open Grid

namespace Editor

/-- What an editor does with a workbook comes out the same when every index and every number is
checked on the way, and no check fails. -/
structure TrapFree (ed : Editor) (w : Workbook) : Prop where
  /-- A line of a reply, whatever arguments it has. -/
  expand_eq : ∀ kind args label,
    Trapping.expand kind args label = pure (expand kind args label)
  /-- A command, whatever arguments it has. It is decoded to be checked and to be run. -/
  decode_eq : ∀ c, Trapping.decode c = Trapping.reached (Operation.decode c)
  issues_eq : ∀ batch, Trapping.issues batch = pure (issues batch)
  /-- A column in the text of an address or of lines. -/
  columnName_eq : ∀ n, Trapping.columnName n = pure (columnName n)
  /-- The run of a batch needs no sheet that is not there, and leaves a workbook with sheets. Only a sort
  whose keys are in no order can end it without a result. -/
  execute : ∀ batch,
    (∃ outcome ed' w', w'.sheets ≠ [] ∧
      ed.execute Trapping.host batch w = .ok (outcome, ed', w') ∧
      ed.execute Workbook.host batch w = .ok (outcome, ed', w')) ∨
    ed.execute Trapping.host batch w = .error .disorder ∧
      ed.execute Workbook.host batch w = .error .disorder
  undo :
    (∃ outcome ed' w', w'.sheets ≠ [] ∧
      ed.undo Trapping.host w = .ok (outcome, ed', w') ∧
      ed.undo Workbook.host w = .ok (outcome, ed', w')) ∨
    ed.undo Trapping.host w = .error .disorder ∧ ed.undo Workbook.host w = .error .disorder
  runTurn : ∀ text,
    (∃ turn ed' w', w'.sheets ≠ [] ∧
      ed.runTurn Trapping.host text w = .ok (turn, ed', w') ∧
      ed.runTurn Workbook.host text w = .ok (turn, ed', w')) ∨
    ed.runTurn Trapping.host text w = .error .disorder ∧
      ed.runTurn Workbook.host text w = .error .disorder

/-- Nothing that an editor does with a workbook that has a sheet traps: it looks at no argument and no
sheet that is not there, and no number leaves its type. This holds for every line of a reply and for
every batch, also one that was never checked, such as a batch of a loaded history.

That a sort finds its keys to be in no order is none of these checks. It stops everything, in the same
cases as it does without them. -/
theorem trapFree (ed : Editor) {w : Workbook} (hw : w.sheets ≠ []) : ed.TrapFree w where
  expand_eq := Trapping.expand_eq
  decode_eq := Trapping.decode_eq
  issues_eq := Trapping.issues_eq
  columnName_eq := Trapping.columnName_eq
  execute batch := by
    rw [Trapping.host_eq]
    rcases ed.execute_answers Workbook.answers_sheets batch hw with
      ⟨outcome, ed', w', hrun, hw'⟩ | ⟨_, hrun, rfl⟩
    · exact Or.inl ⟨outcome, ed', w', hw', hrun, hrun⟩
    · exact Or.inr ⟨hrun, hrun⟩
  undo := by
    rw [Trapping.host_eq]
    rcases ed.undo_answers Workbook.answers_sheets hw with
      ⟨outcome, ed', w', hrun, hw'⟩ | ⟨_, hrun, rfl⟩
    · exact Or.inl ⟨outcome, ed', w', hw', hrun, hrun⟩
    · exact Or.inr ⟨hrun, hrun⟩
  runTurn text := by
    rw [Trapping.host_eq]
    rcases ed.runTurn_answers Workbook.answers_sheets text hw with
      ⟨turn, ed', w', hrun, hw'⟩ | ⟨_, hrun, rfl⟩
    · exact Or.inl ⟨turn, ed', w', hw', hrun, hrun⟩
    · exact Or.inr ⟨hrun, hrun⟩

/-- An editor whose history has a batch that no editor recorded: commands with too few arguments or none
that are understood, a macro, and a copy onto the last cell of the grid. -/
def strayHistory : Editor where
  history := ⟨1, [[.plain .sort ["A1"], .plain .insertRows [], .plain .moveRow ["1"],
    .plain .copy ["A1:B2", "XFD1048576"], .plain .insertRows ["1:1048576"], .plain .undo []]]⟩

theorem trapFree_strayHistory :
    Workbook.new.sheets ≠ [] ∧ strayHistory.TrapFree .new ∧
      (strayHistory.undo Trapping.host .new).map (·.1.executed) = .ok 2 := by
  have hfree : strayHistory.TrapFree .new := strayHistory.trapFree (by decide)
  refine ⟨by decide, hfree, ?_⟩
  rw [Trapping.host_eq]
  decide +kernel

end Editor

end SheetScript
