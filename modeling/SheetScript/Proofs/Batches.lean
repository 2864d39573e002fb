import SheetScript.Editor.Basic
import SheetScript.Proofs.Notation
import SheetScript.Workbook.Host

/-!
# Batches that run through

A batch runs through when the document refuses none of its commands. Then its outcome and its inverse
are known from the single commands.

- `Command.Runs`: one command takes effect.
- `RunsThrough`: every command of a batch does, one after another.
- `runBatch_of_runsThrough`, `Editor.execute_of_runsThrough`: what is reported and recorded for such a
  batch.
- `History.suffix_push`, `History.pop?_of_suffix`: what is recorded last is undone first.
- `run_ask_bind`, `run_act_bind`: the calls of a workbook, as they occur within an operation.
-/

namespace SheetScript

open Grid

theorem map_eq_ok_iff {ε α β : Type} {x : Except ε α} {f : α → β} {b : β} :
    x.map f = .ok b ↔ ∃ a, x = .ok a ∧ f a = b := by
  cases x <;> simp [Except.map]

/-! ## Commands that take effect -/

section

variable {σ : Type} {host : Host σ} {limit : Option Nat}

/-- A command takes effect: it is understood and carried out, and `inverse` is recorded for it. -/
def Command.Runs (host : Host σ) (limit : Option Nat) (c : Command) (s : σ)
    (inverse : List Command) (s' : σ) : Prop :=
  ∃ op, Operation.decode c = .ok op ∧ (op.perform host limit).run s = (.ok inverse, s')

/-- Every command of a batch takes effect. The inverse of the batch undoes the last command first. -/
inductive RunsThrough (host : Host σ) (limit : Option Nat) :
    List Command → σ → List Command → σ → Prop
  | nil (s : σ) : RunsThrough host limit [] s [] s
  | cons {c : Command} {cs inverse rest : List Command} {s s' s'' : σ}
      (hc : c.Runs host limit s inverse s') (hcs : RunsThrough host limit cs s' rest s'') :
      RunsThrough host limit (c :: cs) s (rest ++ inverse) s''

namespace RunsThrough

/-- One command is a batch of its own. -/
theorem single {c : Command} {inverse : List Command} {s s' : σ}
    (h : c.Runs host limit s inverse s') : RunsThrough host limit [c] s inverse s' := by
  simpa using cons h (nil s')

/-- One batch after another. -/
theorem append {cs ds inverse inverse' : List Command} {s s' s'' : σ}
    (h : RunsThrough host limit cs s inverse s') (h' : RunsThrough host limit ds s' inverse' s'') :
    RunsThrough host limit (cs ++ ds) s (inverse' ++ inverse) s'' := by
  induction h with
  | nil s => simpa using h'
  | cons hc _ ih =>
    rw [List.cons_append, ← List.append_assoc]
    exact cons hc (ih h')

/-- The commands are all understood. -/
theorem read {cs inverse : List Command} {s s' : σ} (h : RunsThrough host limit cs s inverse s') :
    ∀ c ∈ cs, ∃ op, Operation.decode c = .ok op := by
  induction h with
  | nil s => exact List.forall_mem_nil _
  | cons hc _ ih =>
    obtain ⟨op, hop, -⟩ := hc
    exact List.forall_mem_cons.mpr ⟨⟨op, hop⟩, ih⟩

end RunsThrough

/-- Commands that all take effect are counted, and their inverses go in front. -/
theorem runCommands_of_runsThrough {cs inverse : List Command} {s s' : σ}
    (h : RunsThrough host limit cs s inverse s') (p : Progress) :
    runCommands host limit cs p s =
      .ok (.open, ⟨{ p.outcome with executed := p.outcome.executed + cs.length },
        inverse ++ p.inverse⟩, s') := by
  induction h generalizing p with
  | nil s => rfl
  | cons hc _ ih =>
    obtain ⟨op, hop, hrun⟩ := hc
    rw [runCommands, hop]
    simp only [hrun]
    rw [ih]
    simp [Progress.done, Nat.add_assoc, Nat.add_comm 1]

end

/-- A session on a workbook does not fail by itself. -/
theorem runBatch_of_runCommands {limit : Option Nat} {cs : List Command} {p : Progress}
    {w w' : Workbook} (h : runCommands Workbook.host limit cs {} w = .ok (.open, p, w')) :
    runBatch Workbook.host limit cs w = .ok (p, w') := by
  have hstart : Workbook.host.start.run w = (.ok (), w) := rfl
  have hcommit : Workbook.host.commit.run w' = (.ok (), w') := rfl
  rw [runBatch]
  by_cases hcs : cs = []
  · subst hcs
    cases h
    rfl
  · simp only [if_neg hcs, hstart, h, hcommit]

/-- A batch that runs through on a workbook reports no errors and records its inverse. -/
theorem runBatch_of_runsThrough {limit : Option Nat} {cs inverse : List Command} {w w' : Workbook}
    (h : RunsThrough Workbook.host limit cs w inverse w') :
    runBatch Workbook.host limit cs w = .ok (⟨{ executed := cs.length }, inverse⟩, w') := by
  refine runBatch_of_runCommands ?_
  rw [runCommands_of_runsThrough h]
  simp

/-- The commands of a batch that runs through are all understood. -/
theorem issuesFrom_of_runsThrough {σ : Type} {host : Host σ} {limit : Option Nat}
    {cs inverse : List Command} {s s' : σ} (h : RunsThrough host limit cs s inverse s')
    (position : Nat) : issuesFrom position cs = [] := by
  induction h generalizing position with
  | nil s => rfl
  | cons hc _ ih =>
    obtain ⟨op, hop, -⟩ := hc
    rw [issuesFrom, issueOf?, hop, ih]
    rfl

/-- A command that takes effect does not undo a batch, so commands that take effect do not either. -/
theorem isLoneUndo_of_runsThrough {σ : Type} {host : Host σ} {limit : Option Nat}
    {cs inverse : List Command} {s s' : σ} (h : RunsThrough host limit cs s inverse s') :
    isLoneUndo cs = false := by
  cases h with
  | nil _ => rfl
  | cons hc hcs =>
    cases hcs with
    | cons _ _ => rfl
    | nil _ =>
      obtain ⟨op, hdecode, -⟩ := hc
      by_contra hundo
      rw [Bool.not_eq_false] at hundo
      have hkind := eq_of_beq hundo
      rw [Operation.decode, hkind] at hdecode
      cases hdecode

/-- A batch that runs through on a workbook is executed without errors. -/
theorem Editor.execute_of_runsThrough (ed : Editor) {cs inverse : List Command} {w w' : Workbook}
    (h : RunsThrough Workbook.host ed.copyLimit cs w inverse w') :
    ed.execute Workbook.host cs w =
      .ok ({ executed := cs.length }, { ed with history := ed.history.push inverse }, w') := by
  rw [execute, if_neg (by simp [isLoneUndo_of_runsThrough h]), runBatch_of_runsThrough h]
  rfl

/-! ## The history -/

namespace History

variable {h : History} {bs : List (List Command)} {batch : List Command}

/-- A batch that is recorded becomes the newest one, and the others before it stay as long as there is
room for them. -/
theorem suffix_push (hbs : bs <:+ h.batches) (hroom : bs.length < h.depth) (hne : batch ≠ []) :
    bs ++ [batch] <:+ (h.push batch).batches := by
  obtain ⟨old, hold⟩ := hbs
  have hpush : (h.push batch).batches =
      (h.batches ++ [batch]).drop ((h.batches ++ [batch]).length - h.depth) := by
    rw [push, if_neg hne]
    rfl
  rw [← hold, List.append_assoc] at hpush
  -- what is dropped lies within the batches before `bs`
  have hlength : (old ++ (bs ++ [batch])).length - h.depth ≤ old.length := by
    simp only [List.length_append, List.length_singleton]
    omega
  rw [hpush, List.drop_append_of_le_length hlength]
  exact List.suffix_append _ _

@[simp] theorem depth_push : (h.push batch).depth = h.depth := by
  rw [push]
  split <;> rfl

/-- The newest batch is taken off, and the others before it stay. -/
theorem pop?_of_suffix (hbs : bs ++ [batch] <:+ h.batches) :
    ∃ h', h.pop? = some (batch, h') ∧ bs <:+ h'.batches := by
  obtain ⟨old, hold⟩ := hbs
  rw [← List.append_assoc] at hold
  refine ⟨{ h with batches := old ++ bs }, ?_, List.suffix_append old bs⟩
  rw [pop?, ← hold, List.getLast?_concat, List.dropLast_concat]
  rfl

end History

/-! ## Calls within an operation -/

section

variable {σ α β : Type}

/-- A step that ends early ends all that follows. -/
theorem run_step_bind {ε : Type} (x : ExceptT ε (StateM σ) α) (k : α → ExceptT ε (StateM σ) β)
    (s : σ) :
    (x >>= k).run s =
      match x.run s with
      | (.ok a, s') => (k a).run s'
      | (.error e, s') => (.error e, s') := by
  unfold ExceptT.run
  simp only [bind, ExceptT.bind, ExceptT.mk, StateT.bind, ExceptT.bindCont]
  cases x s with
  | mk result s' => cases result <;> rfl

/-- A handler goes on from where the step ended. -/
theorem run_step_tryCatch (x : Step σ α) (handle : StepFailure → Step σ α) (s : σ) :
    (tryCatchThe StepFailure x handle).run s =
      match x.run s with
      | (.ok a, s') => (.ok a, s')
      | (.error e, s') => (handle e).run s' := by
  unfold ExceptT.run
  simp only [tryCatchThe, MonadExceptOf.tryCatch, ExceptT.tryCatch, ExceptT.mk, bind,
    StateT.bind]
  cases x s with
  | mk result s' => cases result <;> rfl

theorem run_call (c : Call σ α) (s : σ) :
    (call c).run s = (((c.run s).1.mapError .host : Except StepFailure α), (c.run s).2) := rfl

/-- A question leaves the workbook to what follows. -/
theorem run_ask_bind (f : Workbook → Except Failure α) (k : α → Step Workbook β) (w : Workbook) :
    (call (Workbook.ask f) >>= k).run w =
      match f w with
      | .ok a => (k a).run w
      | .error e => (.error (.host e), w) := by
  have hask : (Workbook.ask f).run w = (f w, w) := rfl
  rw [run_step_bind, run_call, hask]
  cases f w <;> rfl

/-- A change hands the changed workbook on. -/
theorem run_act_bind (f : Workbook → Except Failure Workbook) (k : Unit → Step Workbook β)
    (w : Workbook) :
    (call (Workbook.act f) >>= k).run w =
      match f w with
      | .ok w' => (k ()).run w'
      | .error e => (.error (.host e), w) := by
  have hact : (Workbook.act f).run w =
      match f w with
      | .ok w' => (.ok (), w')
      | .error e => (.error e, w) := rfl
  rw [run_step_bind, run_call, hact]
  cases f w <;> rfl

end

end SheetScript
