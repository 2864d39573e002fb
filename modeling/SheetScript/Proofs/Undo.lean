import SheetScript.Proofs.Reversal

/-!
# Undoing several batches

On a clean workbook, batches of reversible commands can be executed and then undone one by one: every
undo succeeds and leads to the very workbook there was before the batch it undoes.

- `ReversibleRun`, `ReversibleBatches`: every command is reversible when its turn comes, and every
  batch has something to undo.
- `runCommands_of_reversibleRun`: the inverse of such a batch leads back.
- `Editor.executeAll`: several batches, one after another.
- `Editor.execute_reversible`, `Editor.execute_undo`, `Editor.execute_then_undo`: what one batch and one
  undo do to the editor.
- `Editor.executeAll_undoAll`: batches, and as many undos after them.
- `Editor.undo_executeAll`: any number of undos leads back by as many batches.
-/

namespace SheetScript

open Grid

variable {limit : Option Nat} {w w' w₀ : Workbook}

/-! ## One batch -/

/-- The workbook after a command was run, refused or not. -/
def Workbook.after (limit : Option Nat) (c : Command) (w : Workbook) : Workbook :=
  match Operation.decode c with
  | .ok op => ((op.perform Workbook.host limit).run w).2
  | .error _ => w

theorem Workbook.after_of_run {c : Command} {op : Operation} {r : Except StepFailure (List Command)}
    (hdecode : Operation.decode c = .ok op)
    (hrun : (op.perform Workbook.host limit).run w = (r, w')) : w.after limit c = w' := by
  rw [after, hdecode]
  exact congrArg Prod.snd hrun

theorem Workbook.after_of_error {c : Command} {cause : DecodeError}
    (hdecode : Operation.decode c = .error cause) : w.after limit c = w := by
  rw [after, hdecode]

/-- Every command of a batch that is understood can be taken back when its turn comes. -/
def ReversibleRun (limit : Option Nat) : List Command → Workbook → Prop
  | [], _ => True
  | c :: cs, w =>
    (∀ op, Operation.decode c = .ok op → op.Reversible w) ∧ ReversibleRun limit cs (w.after limit c)

instance decidableReversibleRun (limit : Option Nat) :
    (cs : List Command) → (w : Workbook) → Decidable (ReversibleRun limit cs w)
  | [], _ => .isTrue trivial
  | c :: cs, w =>
    have : Decidable (ReversibleRun limit cs (w.after limit c)) := decidableReversibleRun limit cs _
    have : Decidable (∀ op, Operation.decode c = .ok op → op.Reversible w) :=
      match Operation.decode c with
      | .ok op => decidable_of_iff (op.Reversible w) (by simp)
      | .error _ => .isTrue (by simp)
    inferInstanceAs (Decidable (_ ∧ _))

/-- The inverse that a batch of such commands records leads back to where it started. -/
theorem runCommands_of_reversibleRun {cs : List Command} (hw : w.Clean)
    (hcs : ReversibleRun limit cs w) {p : Progress} (hp : LeadsBack limit p.inverse w w₀) :
    ∃ p' w', runCommands Workbook.host limit cs p w = .ok (.open, p', w') ∧ w'.Clean ∧
      LeadsBack limit p'.inverse w' w₀ := by
  induction cs generalizing p w with
  | nil => exact ⟨p, w, rfl, hw, hp⟩
  | cons c cs ih =>
    obtain ⟨hc, hrest⟩ := hcs
    cases hdecode : Operation.decode c with
    | error cause =>
      rw [Workbook.after_of_error hdecode] at hrest
      obtain ⟨p', w', hrun, hw', hp'⟩ :=
        ih hw hrest (p := p.report (commandReport c cause.message)) hp
      refine ⟨p', w', ?_, hw', hp'⟩
      rw [runCommands, hdecode]
      exact hrun
    | ok op =>
      have hreverses : Reverses limit w op := Operation.reverses hw hdecode (hc op hdecode)
      -- the inverse recorded so far leads back from here; a refused command leaves it so
      rcases hreverses with ⟨e, he, hrefused⟩ | ⟨inverse, w₁, hdone, hw₁, hback⟩
      · rw [Workbook.after_of_run hdecode hrefused] at hrest
        obtain ⟨p', w', hrun, hw', hp'⟩ :=
          ih hw hrest (p := p.report (commandReport c e.message)) hp
        refine ⟨p', w', ?_, hw', hp'⟩
        simp only [runCommands, hdecode, hrefused, he]
        exact hrun
      · rw [Workbook.after_of_run hdecode hdone] at hrest
        obtain ⟨p', w', hrun, hw', hp'⟩ := ih hw₁ hrest (p := p.done inverse) (hback.append hp)
        refine ⟨p', w', ?_, hw', hp'⟩
        simp only [runCommands, hdecode, hdone]
        exact hrun

/-- A batch of commands that can be taken back records the way back. -/
theorem runBatch_of_reversibleRun {cs : List Command} (hw : w.Clean)
    (hcs : ReversibleRun limit cs w) :
    ∃ p w', runBatch Workbook.host limit cs w = .ok (p, w') ∧ w'.Clean ∧
      LeadsBack limit p.inverse w' w := by
  obtain ⟨p, w', hrun, hw', hp⟩ := runCommands_of_reversibleRun hw hcs (p := {}) (.nil w)
  exact ⟨p, w', runBatch_of_runCommands hrun, hw', hp⟩

/-- A batch that only undoes records nothing when it is run as an ordinary one. -/
theorem inverse_eq_nil_of_isLoneUndo {cs : List Command} {p : Progress} (hcs : isLoneUndo cs = true)
    (h : runBatch Workbook.host limit cs w = .ok (p, w')) : p.inverse = [] := by
  obtain ⟨c, rfl⟩ : ∃ c, cs = [c] := by
    match cs, hcs with
    | [c], _ => exact ⟨c, rfl⟩
  have hkind : c.kind = .verb .undo := by simpa [isLoneUndo, Command.isUndo] using hcs
  have hdecode : Operation.decode c = .error .undoInBatch := by
    rw [Operation.decode, hkind]
    rfl
  have hrun : runCommands Workbook.host limit [c] {} w =
      .ok (.open, ({} : Progress).report (commandReport c DecodeError.undoInBatch.message), w) := by
    rw [runCommands, hdecode]
    rfl
  rw [runBatch_of_runCommands hrun] at h
  cases h
  rfl

/-! ## Several batches -/

/-- Every batch is made of commands that can be taken back when their turn comes, and records
something to undo. -/
def ReversibleBatches (limit : Option Nat) : List (List Command) → Workbook → Prop
  | [], _ => True
  | batch :: batches, w =>
    ReversibleRun limit batch w ∧
      ∀ p w', runBatch Workbook.host limit batch w = .ok (p, w') →
        p.inverse ≠ [] ∧ ReversibleBatches limit batches w'

instance decidableReversibleBatches (limit : Option Nat) :
    (batches : List (List Command)) → (w : Workbook) → Decidable (ReversibleBatches limit batches w)
  | [], _ => .isTrue trivial
  | batch :: batches, w =>
    have : Decidable (∀ p w', runBatch Workbook.host limit batch w = .ok (p, w') →
        p.inverse ≠ [] ∧ ReversibleBatches limit batches w') :=
      match runBatch Workbook.host limit batch w with
      | .ok (p, w') =>
        have := decidableReversibleBatches limit batches w'
        decidable_of_iff (p.inverse ≠ [] ∧ ReversibleBatches limit batches w') (by simp)
      | .error _ => .isTrue (by simp)
    inferInstanceAs (Decidable (ReversibleRun limit batch w ∧ _))

namespace Editor

section

variable {σ : Type} {ed ed' ed'' : Editor} {host : Host σ} {s s' s'' : σ}

/-- Execute batches one after another. The result has their outcomes in order. -/
def executeAll (ed : Editor) (host : Host σ) :
    List (List Command) → σ → Except Stop (List Outcome × Editor × σ)
  | [], s => .ok ([], ed, s)
  | batch :: batches, s =>
    match ed.execute host batch s with
    | .error why => .error why
    | .ok (outcome, ed, s) =>
      (executeAll ed host batches s).map fun (outcomes, ed, s) => (outcome :: outcomes, ed, s)

/-- Batches run through if the first one does and the others do after it. -/
theorem executeAll_cons_eq_ok_iff {batch : List Command} {batches : List (List Command)}
    {outcomes : List Outcome} :
    ed.executeAll host (batch :: batches) s = .ok (outcomes, ed'', s'') ↔
      ∃ outcome ed' s' rest, ed.execute host batch s = .ok (outcome, ed', s') ∧
        ed'.executeAll host batches s' = .ok (rest, ed'', s'') ∧ outcomes = outcome :: rest := by
  rw [executeAll]
  cases ed.execute host batch s with
  | error why => simp
  | ok r =>
    obtain ⟨outcome, ed', s'⟩ := r
    constructor
    · intro h
      obtain ⟨⟨rest, ed₁, s₁⟩, hrest, heq⟩ := map_eq_ok_iff.mp h
      cases heq
      exact ⟨outcome, ed', s', rest, rfl, hrest, rfl⟩
    · rintro ⟨outcome', ed₁, s₁, rest, heq, hrest, rfl⟩
      cases heq
      exact map_eq_ok_iff.mpr ⟨_, hrest, rfl⟩

/-- Some batches and then some more are all of them. -/
theorem executeAll_append {batches more : List (List Command)} {outcomes others : List Outcome}
    (h : ed.executeAll host batches s = .ok (outcomes, ed', s'))
    (hmore : ed'.executeAll host more s' = .ok (others, ed'', s'')) :
    ed.executeAll host (batches ++ more) s = .ok (outcomes ++ others, ed'', s'') := by
  induction batches generalizing ed s outcomes with
  | nil =>
    cases h
    exact hmore
  | cons batch batches ih =>
    obtain ⟨outcome, ed₁, s₁, rest, hbatch, hrest, rfl⟩ := executeAll_cons_eq_ok_iff.mp h
    exact executeAll_cons_eq_ok_iff.mpr ⟨outcome, ed₁, s₁, rest ++ others, hbatch, ih hrest, rfl⟩

end

variable (ed : Editor)

/-- Executing a reversible batch records an inverse that leads back. -/
theorem execute_reversible {batch : List Command} {batches : List (List Command)} (hw : w.Clean)
    (h : ReversibleBatches ed.copyLimit (batch :: batches) w) :
    ∃ outcome inverse w',
      ed.execute Workbook.host batch w =
        .ok (outcome, { ed with history := ed.history.push inverse }, w') ∧
      inverse ≠ [] ∧ LeadsBack ed.copyLimit inverse w' w ∧ w'.Clean ∧
      ReversibleBatches ed.copyLimit batches w' := by
  obtain ⟨hbatch, hrest⟩ := h
  obtain ⟨p, w', hrun, hw', hback⟩ := runBatch_of_reversibleRun hw hbatch
  obtain ⟨hne, hbatches⟩ := hrest p w' hrun
  refine ⟨p.outcome, p.inverse, w', ?_, hne, hback, hw', hbatches⟩
  have hundo : ¬isLoneUndo batch = true := fun hlone => hne (inverse_eq_nil_of_isLoneUndo hlone hrun)
  rw [execute, if_neg hundo, hrun]
  rfl

/-- Undoing runs the newest inverse. -/
theorem execute_undo {u : Command} {inverse : List Command} {older : List (List Command)}
    (hu : u.isUndo = true) (hhistory : older ++ [inverse] <:+ ed.history.batches)
    (hback : LeadsBack ed.copyLimit inverse w' w) :
    ∃ outcome history, ed.execute Workbook.host [u] w' = .ok (outcome, { ed with history }, w) ∧
      outcome.success = true ∧ older <:+ history.batches := by
  obtain ⟨history, hpop, holder⟩ := History.pop?_of_suffix hhistory
  obtain ⟨inverse', hrun⟩ := hback
  refine ⟨{ executed := inverse.length }, history, ?_, rfl, holder⟩
  rw [execute, if_pos (show isLoneUndo [u] = true from hu), undo, hpop]
  simp only [runBatch_of_runsThrough hrun]
  rfl

/-- A batch that runs through is executed, and an undo right after it runs its inverse. -/
theorem execute_then_undo {u : Command} {cs inverse : List Command} {w₁ w₂ : Workbook}
    (hu : u.isUndo = true) (hdepth : 1 ≤ ed.history.depth)
    (hrun : RunsThrough Workbook.host ed.copyLimit cs w inverse w₁) (hinverse : inverse ≠ [])
    (hback : LeadsBack ed.copyLimit inverse w₁ w₂) :
    ∃ ed₁ outcome ed₂,
      ed.execute Workbook.host cs w = .ok ({ executed := cs.length }, ed₁, w₁) ∧
      ed₁.execute Workbook.host [u] w₁ = .ok (outcome, ed₂, w₂) ∧ outcome.success = true := by
  have hhistory := History.suffix_push (h := ed.history) List.nil_suffix hdepth hinverse
  obtain ⟨outcome, history, hundo, hsuccess, -⟩ :=
    execute_undo { ed with history := ed.history.push inverse } hu hhistory hback
  exact ⟨_, outcome, _, ed.execute_of_runsThrough hrun, hundo, hsuccess⟩

/-- Some of the batches can be executed, and the others are still reversible then. -/
theorem executeAll_reversible {batches more : List (List Command)} (hw : w.Clean)
    (h : ReversibleBatches ed.copyLimit (batches ++ more) w) :
    ∃ outcomes history w',
      ed.executeAll Workbook.host batches w = .ok (outcomes, { ed with history }, w') ∧
      w'.Clean ∧ history.depth = ed.history.depth ∧
      ReversibleBatches ed.copyLimit more w' := by
  induction batches generalizing ed w with
  | nil => exact ⟨[], ed.history, w, rfl, hw, rfl, h⟩
  | cons batch batches ih =>
    obtain ⟨outcome, inverse, w₁, hexec, -, -, hw₁, hbatches⟩ := ed.execute_reversible hw h
    obtain ⟨outcomes, history, w', hrun, hw', hdepth, hmore⟩ :=
      ih { ed with history := ed.history.push inverse } hw₁ hbatches
    refine ⟨outcome :: outcomes, history, w', ?_, hw', hdepth.trans History.depth_push, hmore⟩
    exact executeAll_cons_eq_ok_iff.mpr ⟨_, _, _, _, hexec, hrun, rfl⟩

/-- As many undos as there were batches lead back to where the batches started. -/
theorem executeAll_undoAll {u : Command} (hu : u.isUndo = true) {batches : List (List Command)}
    (hw : w.Clean) (h : ReversibleBatches ed.copyLimit batches w) {older : List (List Command)}
    (holder : older <:+ ed.history.batches)
    (hroom : older.length + batches.length ≤ ed.history.depth) :
    ∃ done history w' undone history',
      ed.executeAll Workbook.host batches w = .ok (done, { ed with history }, w') ∧
      executeAll { ed with history } Workbook.host (List.replicate batches.length [u]) w' =
        .ok (undone, { ed with history := history' }, w) ∧
      undone.map Outcome.success = List.replicate batches.length true ∧
      older <:+ history'.batches := by
  induction batches generalizing ed w older with
  | nil => exact ⟨[], ed.history, w, [], ed.history, rfl, rfl, rfl, holder⟩
  | cons batch batches ih =>
    rw [List.length_cons] at hroom
    obtain ⟨outcome, inverse, w₁, hexec, hne, hback, hw₁, hbatches⟩ := ed.execute_reversible hw h
    have hpushed : older ++ [inverse] <:+ (ed.history.push inverse).batches :=
      History.suffix_push holder (by omega) hne
    obtain ⟨done, history, w', undone, history', hdo, hundo, hsuccess, hleft⟩ :=
      ih { ed with history := ed.history.push inverse } hw₁ hbatches hpushed
        (by
          rw [History.depth_push, List.length_append, List.length_singleton]
          omega)
    obtain ⟨outcome', history'', hlast, hlastOk, hrest⟩ :=
      execute_undo { ed with history := history' } hu hleft hback
    refine ⟨outcome :: done, history, w', undone ++ [outcome'], history'', ?_, ?_, ?_, hrest⟩
    · exact executeAll_cons_eq_ok_iff.mpr ⟨_, _, _, _, hexec, hdo, rfl⟩
    · -- the later batches are undone first, and the last undo takes this one back
      rw [List.length_cons, List.replicate_succ']
      exact executeAll_append hundo (executeAll_cons_eq_ok_iff.mpr ⟨_, _, _, [], hlast, rfl, rfl⟩)
    · rw [List.map_append, hsuccess, List.length_cons, List.replicate_succ', List.map_singleton,
        hlastOk]

/-- Batches of reversible commands are executed on a clean workbook, as many as the history has room
for. Any number of undos up to theirs then succeeds, and leads to the very workbook that the batches
before the undone ones lead to. -/
theorem undo_executeAll {u : Command} (hu : u.isUndo = true) {batches : List (List Command)}
    (hw : w.Clean) (h : ReversibleBatches ed.copyLimit batches w)
    (hdepth : batches.length ≤ ed.history.depth) {j : Nat} (hj : j ≤ batches.length) :
    ∃ done ed₁ w₁ undone ed₂ w₂ before ed₃,
      ed.executeAll Workbook.host batches w = .ok (done, ed₁, w₁) ∧
      ed₁.executeAll Workbook.host (List.replicate j [u]) w₁ = .ok (undone, ed₂, w₂) ∧
      undone.map Outcome.success = List.replicate j true ∧
      ed.executeAll Workbook.host (batches.take (batches.length - j)) w =
        .ok (before, ed₃, w₂) := by
  have hlength : (batches.drop (batches.length - j)).length = j := by
    rw [List.length_drop]
    omega
  have hsplit := List.take_append_drop (batches.length - j) batches
  rw [← hsplit] at h
  obtain ⟨before, history, w₂, hbefore, hw₂, hsame, hlater⟩ := ed.executeAll_reversible hw h
  obtain ⟨done, history', w₁, undone, history'', hdo, hundo, hsuccess, -⟩ :=
    executeAll_undoAll { ed with history } hu hw₂ hlater List.nil_suffix (by
      rw [List.length_nil, hlength]
      show 0 + j ≤ history.depth
      omega)
  rw [hlength] at hundo hsuccess
  have hall := executeAll_append hbefore hdo
  rw [hsplit] at hall
  exact ⟨_, _, w₁, undone, _, w₂, before, _, hall, hundo, hsuccess, hbefore⟩

/-- A batch that writes to a cell, and one that makes it a cell of another sheet and another row. -/
def twoBatches : List (List Command) :=
  [[.plain .setValue ["A1", "x"], .plain .formatBold ["A1", "true"]],
    [.plain .insertRows ["1:1"], .plain .renameSheet ["Data"], .plain .setFormula ["Data!A1", "=A2"]]]

/-- The second of the two batches is undone. -/
theorem undo_executeAll_twoBatches :
    ∃ done ed₁ w₁ undone ed₂ w₂ before ed₃,
      executeAll {} Workbook.host twoBatches .new = .ok (done, ed₁, w₁) ∧
      ed₁.executeAll Workbook.host [[.plain .undo []]] w₁ = .ok (undone, ed₂, w₂) ∧
      undone.map Outcome.success = [true] ∧
      executeAll {} Workbook.host (twoBatches.take 1) .new = .ok (before, ed₃, w₂) :=
  undo_executeAll {} (j := 1) (u := .plain .undo []) rfl (by decide +kernel) (by decide +kernel)
    (by decide) (by decide)

end Editor

end SheetScript
