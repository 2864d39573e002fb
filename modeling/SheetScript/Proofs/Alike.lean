import SheetScript.Proofs.Attempts
import SheetScript.Proofs.Batches
import SheetScript.Proofs.Requests
import SheetScript.Turn

/-!
# Documents that answer alike

Batches reach a document through its calls only. So when two documents answer alike, a batch has the
same outcome on both; and what the calls of one document keep, every batch keeps.

- `Call.Alike`, `Step.Alike`: the same result on related documents, which stay related.
- `Operation.perform_alike`: every operation, if that holds of the calls within a session.
- `trace_alike`: every attempt of a batch.
- `runBatch_answers`, `Editor.execute_answers`, `Editor.undo_answers`, `Editor.runTurn_answers`: on a
  document that answers, batches, undos and turns come to an end and keep its condition, unless a call
  stops everything.
-/

namespace SheetScript

variable {σ τ α β : Type} {stops : Stop → Prop} {R : σ → τ → Prop}

/-- Two calls have the same result on related documents and leave them related. They stop everything for
some causes only. -/
def Call.Alike (stops : Stop → Prop) (R : σ → τ → Prop) (x : Call σ α) (y : Call τ α) : Prop :=
  ∀ s t, R s t → ∃ result s' t', x.run s = (result, s') ∧ y.run t = (result, t') ∧
    (∀ why, result = .error (.stop why) → stops why) ∧ R s' t'

/-- Whether a step may end with a failure, if everything stops for some causes only. -/
def StepFailure.Within (stops : Stop → Prop) : StepFailure → Prop
  | .host (.stop why) => stops why
  | _ => True

/-- The same as for calls, for steps. -/
def Step.Alike (stops : Stop → Prop) (R : σ → τ → Prop) (x : Step σ α) (y : Step τ α) : Prop :=
  ∀ s t, R s t → ∃ result s' t', x.run s = (result, s') ∧ y.run t = (result, t') ∧
    (∀ e, result = .error e → e.Within stops) ∧ R s' t'

namespace Step.Alike

theorem pure (a : α) : Step.Alike stops R (Pure.pure a : Step σ α) (Pure.pure a : Step τ α) := by
  intro s t h
  exact ⟨.ok a, s, t, rfl, rfl, by simp, h⟩

theorem throw {e : StepFailure} (he : e.Within stops) :
    Step.Alike stops R (MonadExcept.throw e : Step σ α) (MonadExcept.throw e : Step τ α) := by
  intro s t h
  refine ⟨.error e, s, t, rfl, rfl, ?_, h⟩
  rintro _ ⟨⟩
  exact he

/-- Calls that answer alike are steps that go alike. -/
theorem call {x : Call σ α} {y : Call τ α} (h : Call.Alike stops R x y) :
    Step.Alike stops R (SheetScript.call x) (SheetScript.call y) := by
  intro s t hst
  obtain ⟨result, s', t', hx, hy, hresult, hst'⟩ := h s t hst
  refine ⟨result.mapError .host, s', t', ?_, ?_, ?_, hst'⟩
  · rw [run_call, hx]
  · rw [run_call, hy]
  · intro e heq
    match result, heq with
    | .error (.error cause), rfl => trivial
    | .error (.stop why), rfl => exact hresult why rfl

/-- Steps that go alike one after another. -/
theorem bind {x : Step σ α} {y : Step τ α} {k : α → Step σ β} {l : α → Step τ β}
    (h : Step.Alike stops R x y) (hk : ∀ a, Step.Alike stops R (k a) (l a)) :
    Step.Alike stops R (x >>= k) (y >>= l) := by
  intro s t hst
  obtain ⟨result, s', t', hx, hy, hresult, hst'⟩ := h s t hst
  rw [run_step_bind, run_step_bind, hx, hy]
  cases result with
  | ok a => exact hk a s' t' hst'
  | error e => exact ⟨.error e, s', t', rfl, rfl, by simpa using hresult, hst'⟩

/-- Handlers see the same failure on both sides. -/
theorem tryCatch {x : Step σ α} {y : Step τ α} {k : StepFailure → Step σ α}
    {l : StepFailure → Step τ α} (h : Step.Alike stops R x y)
    (hk : ∀ e, e.Within stops → Step.Alike stops R (k e) (l e)) :
    Step.Alike stops R (tryCatchThe StepFailure x k) (tryCatchThe StepFailure y l) := by
  intro s t hst
  obtain ⟨result, s', t', hx, hy, hresult, hst'⟩ := h s t hst
  rw [run_step_tryCatch, run_step_tryCatch, hx, hy]
  cases result with
  | ok a => exact ⟨.ok a, s', t', rfl, rfl, by simp, hst'⟩
  | error e => exact hk e (by simpa using hresult) s' t' hst'

theorem forM {x : α → Step σ Unit} {y : α → Step τ Unit} (h : ∀ a, Step.Alike stops R (x a) (y a))
    (as : List α) : Step.Alike stops R (as.forM x) (as.forM y) := by
  induction as with
  | nil => exact pure ()
  | cons a as ih => exact (h a).bind fun _ => ih

end Step.Alike

/-- Two documents answer alike within sessions. -/
def Host.Alike (stops : Stop → Prop) (R : σ → τ → Prop) (host : Host σ) (host' : Host τ) : Prop :=
  ∀ r, r.isSession = false → Call.Alike stops R (host.answer r) (host'.answer r)

section

variable {host : Host σ} {host' : Host τ} (limit : Option Nat)

/-- An operation on documents that answer alike. The proof follows the calls of each operation. -/
theorem Operation.perform_alike (h : Host.Alike stops R host host') (op : Operation) :
    Step.Alike stops R (op.perform host limit) (op.perform host' limit) := by
  have hcall : ∀ r, r.isSession = false →
      Step.Alike stops R (call (host.answer r)) (call (host'.answer r)) := fun r hr => .call (h r hr)
  cases op with
  | setValue a v =>
    exact (hcall (.value a) rfl).bind fun _ => (hcall (.formula a) rfl).bind fun _ =>
      (hcall (.setValue a v) rfl).bind fun _ => .pure _
  | setFormula a f =>
    exact (hcall (.formula a) rfl).bind fun _ => (hcall (.setFormula a f) rfl).bind fun _ => .pure _
  | formatBold a bold =>
    exact (hcall (.bold a) rfl).bind fun _ => (hcall (.setBold a bold) rfl).bind fun _ => .pure _
  | formatColor a color =>
    exact (hcall (.fill a) rfl).bind fun _ => (hcall (.setFill a color) rfl).bind fun _ => .pure _
  | formatFill a color =>
    exact (hcall (.fill a) rfl).bind fun _ => (hcall (.setFill a color) rfl).bind fun _ => .pure _
  | clear a => exact (hcall (.clear a) rfl).bind fun _ => .pure _
  | select a => exact (hcall (.select a) rfl).bind fun _ => .pure _
  | insertLines lines =>
    exact (hcall (.insert lines lines.insertShift) rfl).bind fun _ => .pure _
  | deleteLines lines =>
    exact (hcall (.delete lines lines.deleteShift) rfl).bind fun _ => .pure _
  | copy source target =>
    cases limit with
    | none =>
      exact (Step.Alike.pure []).bind fun _ =>
        (hcall (.copy source target) rfl).bind fun _ => .pure _
    | some n =>
      exact (hcall (.snapshot target) rfl).bind fun cells =>
        (Step.Alike.pure (restoreBlock target n cells)).bind fun _ =>
          (hcall (.copy source target) rfl).bind fun _ => .pure _
  | sort a key ascending => exact (hcall (.sort a key ascending) rfl).bind fun _ => .pure _
  | createSheet name =>
    refine Step.Alike.tryCatch ((hcall (.addSheet name) rfl).bind fun _ => .pure _) fun e he => ?_
    split
    · exact .pure []
    · exact .throw he
  | deleteSheet name => exact (hcall (.deleteSheet name) rfl).bind fun _ => .pure _
  | renameSheet old new =>
    exact (hcall (.sheetName old) rfl).bind fun stored =>
      (hcall (.renameSheet stored new) rfl).bind fun _ => .pure _
  | activateSheet name => exact (hcall (.activateSheet name) rfl).bind fun _ => .pure _
  | createChart kind source title =>
    exact (hcall (.addChart kind source title) rfl).bind fun _ => .pure _
  | deleteChart term =>
    refine (hcall .charts rfl).bind fun charts => ?_
    dsimp only
    cases findChart? charts term with
    | none =>
      have hwithin : (StepFailure.noChart term).Within stops := trivial
      exact (Step.Alike.throw hwithin).bind fun _ => .pure _
    | some found => exact (hcall (.deleteChart found.name) rfl).bind fun _ => .pure _
  | deleteAllCharts =>
    exact (hcall .charts rfl).bind fun charts =>
      (Step.Alike.forM (fun c : ChartEntry => hcall (.deleteChart c.name) rfl) _).bind fun _ => .pure _

/-! ## Attempts -/

/-- A command on documents that answer alike. -/
theorem attempt_alike (h : Host.Alike stops R host host') (c : Command) {s : σ} {t : τ}
    (hst : R s t) :
    ∃ a s' t', attempt host limit c s = (a, s') ∧ attempt host' limit c t = (a, t') ∧
      (∀ why, a = .stuck why → stops why) ∧ R s' t' := by
  rw [attempt, attempt]
  cases Operation.decode c with
  | error cause => exact ⟨_, s, t, rfl, rfl, by simp, hst⟩
  | ok op =>
    obtain ⟨result, s', t', hx, hy, hresult, hst'⟩ :=
      Operation.perform_alike limit h op s t hst
    simp only [hx, hy]
    cases result with
    | ok inverse => exact ⟨_, s', t', rfl, rfl, by simp, hst'⟩
    | error failure =>
      cases failure with
      | noChart term => exact ⟨_, s', t', rfl, rfl, by simp, hst'⟩
      | host cause =>
        cases cause with
        | stop why =>
          refine ⟨.stuck why, s', t', rfl, rfl, ?_, hst'⟩
          rintro _ ⟨⟩
          exact hresult _ rfl
        | error e =>
          cases he : e.isSession with
          | true => exact ⟨.lost e, s', t', if_pos he, if_pos he, by simp, hst'⟩
          | false =>
            exact ⟨.refused _, s', t', if_neg (by simp [he]), if_neg (by simp [he]), by simp, hst'⟩

/-- A batch on documents that answer alike. -/
theorem trace_alike (h : Host.Alike stops R host host') (cs : List Command) {s : σ} {t : τ}
    (hst : R s t) :
    ∃ attempts s' t', trace host limit cs s = ⟨attempts, s'⟩ ∧
      trace host' limit cs t = ⟨attempts, t'⟩ ∧
      (∀ x ∈ attempts, ∀ why, x.2 = .stuck why → stops why) ∧ R s' t' := by
  induction cs generalizing s t with
  | nil => exact ⟨[], s, t, rfl, rfl, by simp, hst⟩
  | cons c cs ih =>
    obtain ⟨a, s₁, t₁, hs, ht, ha, hst₁⟩ := attempt_alike limit h c hst
    cases hends : a.ends with
    | true =>
      refine ⟨[(c, a)], s₁, t₁, trace_cons_of_ends hs hends, trace_cons_of_ends ht hends, ?_, hst₁⟩
      intro x hx
      rw [List.mem_singleton.mp hx]
      exact ha
    | false =>
      obtain ⟨attempts, s', t', hs', ht', hrest, hst'⟩ := ih hst₁
      refine ⟨(c, a) :: attempts, s', t', ?_, ?_, ?_, hst'⟩
      · rw [trace_cons hs hends, hs']
      · rw [trace_cons ht hends, ht']
      · intro x hx
        rcases List.mem_cons.mp hx with rfl | hx
        · exact ha
        · exact hrest x hx

end

/-! ## Documents that answer -/

section

variable {host : Host σ} {P : σ → Prop} (limit : Option Nat) {s : σ}

/-- A document that answers and another copy of it answer alike. -/
theorem Host.Answers.alike (h : host.Answers stops P) :
    Host.Alike stops (fun s t => s = t ∧ P s) host host := by
  rintro r - s _ ⟨rfl, hs⟩
  obtain ⟨hresult, hs'⟩ := h r s hs
  exact ⟨_, _, _, rfl, rfl, hresult, rfl, hs'⟩

/-- What a host keeps in each call it keeps in a batch, and a batch is stopped by what a call can be
stopped by. -/
theorem trace_answers (h : host.Answers stops P) (cs : List Command) (hs : P s) :
    (∀ x ∈ (trace host limit cs s).attempts, ∀ why, x.2 = .stuck why → stops why) ∧
      P (trace host limit cs s).state := by
  obtain ⟨attempts, s', -, htrace, -, hstuck, -, hs'⟩ :=
    trace_alike limit h.alike cs ⟨rfl, hs⟩
  rw [htrace]
  exact ⟨hstuck, hs'⟩

/-- A batch is kept open, is lost or is stuck. -/
theorem attempts_cases (attempts : List (Command × Attempt)) :
    (∀ x ∈ attempts, x.2.ends = false) ∨
      ((∀ x ∈ attempts, x.2.stop? = none) ∧ attempts.any (·.2.ends) = true) ∨
      ∃ c why, (c, .stuck why) ∈ attempts := by
  by_cases hopen : ∀ x ∈ attempts, x.2.ends = false
  · exact Or.inl hopen
  by_cases hstop : ∀ x ∈ attempts, x.2.stop? = none
  · exact Or.inr (Or.inl ⟨hstop, by simpa using hopen⟩)
  · push Not at hstop
    obtain ⟨⟨c, a⟩, hmem, ha⟩ := hstop
    cases a with
    | stuck why => exact Or.inr (Or.inr ⟨c, why, hmem⟩)
    | _ => cases ha rfl

/-- A batch comes to an end, or stops everything. -/
theorem runBatch_answers (h : host.Answers stops P) (batch : List Command) (hs : P s) :
    (∃ p s', runBatch host limit batch s = .ok (p, s') ∧ P s') ∨
      ∃ why, runBatch host limit batch s = .error why ∧ stops why := by
  by_cases hne : batch = []
  · exact Or.inl ⟨{}, s, by rw [runBatch, if_pos hne], hs⟩
  rcases h.run_cases .start hs with
    ⟨_, s₁, hstart, hs₁⟩ | ⟨e, s₁, hstart, hs₁⟩ | ⟨why, s₁, hstart, hwhy⟩
  · obtain ⟨hstuck, hs₂⟩ := trace_answers limit h batch hs₁
    rcases attempts_cases (trace host limit batch s₁).attempts with
      hopen | ⟨hstop, hends⟩ | ⟨c, why, hmem⟩
    · rcases h.run_cases .commit hs₂ with
        ⟨_, s₃, hcommit, hs₃⟩ | ⟨e, s₃, hcommit, hs₃⟩ | ⟨why, s₃, hcommit, hwhy⟩
      · exact Or.inl ⟨_, s₃, runBatch_of_commit hne hstart rfl hopen hcommit, hs₃⟩
      · exact Or.inl ⟨_, s₃, runBatch_of_commit_error hne hstart rfl hopen hcommit, hs₃⟩
      · exact Or.inr ⟨why, runBatch_of_commit_stop hne hstart rfl hopen hcommit, hwhy⟩
    · exact Or.inl ⟨_, _, runBatch_of_lost hne hstart rfl hstop hends, hs₂⟩
    · exact Or.inr ⟨why, runBatch_of_stuck hne hstart rfl hmem, hstuck _ hmem why rfl⟩
  · exact Or.inl ⟨_, s₁, runBatch_of_start_error hne hstart, hs₁⟩
  · exact Or.inr ⟨why, runBatch_of_start_stop hne hstart, hwhy⟩

namespace Editor

variable (ed : Editor)

/-- An undo comes to an end, or stops everything. -/
theorem undo_answers (h : host.Answers stops P) (hs : P s) :
    (∃ outcome ed' s', ed.undo host s = .ok (outcome, ed', s') ∧ P s') ∨
      ∃ why, ed.undo host s = .error why ∧ stops why := by
  rw [undo]
  cases ed.history.pop? with
  | none => exact Or.inl ⟨_, ed, s, rfl, hs⟩
  | some newest =>
    rcases runBatch_answers ed.copyLimit h newest.1 hs with ⟨p, s', hrun, hs'⟩ | ⟨why, hrun, hwhy⟩
    · refine Or.inl ⟨p.outcome, { ed with history := newest.2 }, s', ?_, hs'⟩
      simp only [hrun]
      rfl
    · refine Or.inr ⟨why, ?_, hwhy⟩
      simp only [hrun]
      rfl

/-- The execution of a batch comes to an end, or stops everything. -/
theorem execute_answers (h : host.Answers stops P) (batch : List Command) (hs : P s) :
    (∃ outcome ed' s', ed.execute host batch s = .ok (outcome, ed', s') ∧ P s') ∨
      ∃ why, ed.execute host batch s = .error why ∧ stops why := by
  cases hlone : isLoneUndo batch with
  | true =>
    rw [execute, if_pos hlone]
    exact ed.undo_answers h hs
  | false =>
    rcases runBatch_answers ed.copyLimit h batch hs with ⟨p, s', hrun, hs'⟩ | ⟨why, hrun, hwhy⟩
    · exact Or.inl ⟨_, _, s', ed.execute_of_runBatch hlone hrun, hs'⟩
    · exact Or.inr ⟨why, ed.execute_of_stop hlone hrun, hwhy⟩

/-- A turn comes to an end, or stops everything. -/
theorem runTurn_answers (h : host.Answers stops P) (text : String) (hs : P s) :
    (∃ turn ed' s', ed.runTurn host text s = .ok (turn, ed', s') ∧ P s') ∨
      ∃ why, ed.runTurn host text s = .error why ∧ stops why := by
  by_cases hready : (Turn.preview text).isRunnable = true
  · rw [runTurn]
    simp only [if_pos hready]
    rcases ed.execute_answers h (Turn.preview text).commands hs with
      ⟨outcome, ed', s', hrun, hs'⟩ | ⟨why, hrun, hwhy⟩
    · refine Or.inl ⟨{ Turn.preview text with status := .executed outcome }, ed', s', ?_, hs'⟩
      rw [hrun]
      rfl
    · refine Or.inr ⟨why, ?_, hwhy⟩
      rw [hrun]
      rfl
  · refine Or.inl ⟨Turn.preview text, ed, s, ?_, hs⟩
    simp [runTurn, hready]

end Editor

end

end SheetScript
