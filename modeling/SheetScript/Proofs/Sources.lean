import SheetScript.Proofs.Accounting

/-!
# Where reports come from

When every command of a batch is understood, all that can go wrong is up to the document: a call fails,
or a chart is not among those that the document lists. So every report of the batch goes back to one of
these, in the session itself or in a command of the batch.

- `StepFailure.Source`: a failed call, or a search that found no chart.
- `Operation.perform_failsBy`: nothing else makes an operation fail.
- `Editor.Reported`: the reports that a batch can have if all of it is understood.
- `Editor.Ends.reported`: all reports of a batch are of these.
-/

namespace SheetScript

variable {σ α β : Type}

/-! ## Failures of operations -/

/-- Where a failure comes from. -/
inductive StepFailure.Source (host : Host σ) : StepFailure → Prop
  /-- The document answered a call with it. -/
  | call (r : Request) {cause : Failure} {s s' : σ}
      (failed : (host.answer r).run s = (.error cause, s')) : Source host (.host cause)
  /-- None of the charts that the document listed is the one that was looked for. -/
  | search {term : String} {charts : List ChartEntry} {s s' : σ}
      (listed : host.charts.run s = (.ok charts, s')) (missing : findChart? charts term = none) :
      Source host (.noChart term)

/-- All failures of a step come from the document or the search for a chart. -/
def Step.FailsBy (host : Host σ) (x : Step σ α) : Prop :=
  ∀ s e s', x.run s = (.error e, s') → StepFailure.Source host e

namespace Step.FailsBy

variable {host : Host σ} {x : Step σ α}

theorem pure (a : α) : Step.FailsBy host (Pure.pure a : Step σ α) := by
  intro s e s' h
  cases h

theorem throw {e : StepFailure} (he : e.Source host) :
    Step.FailsBy host (MonadExcept.throw e : Step σ α) := by
  intro s e' s' h
  cases h
  exact he

/-- What a call fails by is an answer of the host. -/
theorem call (r : Request) : Step.FailsBy host (SheetScript.call (host.answer r)) := by
  intro s e s' h
  rw [run_call] at h
  rcases hrun : (host.answer r).run s with ⟨result, s₁⟩
  rw [hrun] at h
  cases result with
  | ok a => cases h
  | error cause =>
    cases h
    exact .call r hrun

theorem run_of_run_call {c : Call σ α} {s s' : σ} {a : α}
    (h : (SheetScript.call c).run s = (.ok a, s')) : c.run s = (.ok a, s') := by
  rw [run_call] at h
  rcases hrun : c.run s with ⟨result, s₁⟩
  rw [hrun] at h
  cases result with
  | ok b =>
    cases h
    rfl
  | error cause => cases h

/-- What comes next may depend on the answer that was given. -/
theorem bind (h : Step.FailsBy host x) {k : α → Step σ β}
    (hk : ∀ s a s', x.run s = (.ok a, s') → Step.FailsBy host (k a)) :
    Step.FailsBy host (x >>= k) := by
  intro s e s' hrun
  rw [run_step_bind] at hrun
  rcases hx : x.run s with ⟨result, s₁⟩
  rw [hx] at hrun
  cases result with
  | ok a => exact hk s a s₁ hx s₁ e s' hrun
  | error e' =>
    cases hrun
    exact h s e s' hx

/-- Two steps fail by what one of them fails by. -/
theorem andThen (h : Step.FailsBy host x) {k : α → Step σ β}
    (hk : ∀ a, Step.FailsBy host (k a)) : Step.FailsBy host (x >>= k) :=
  h.bind fun _ a _ _ => hk a

/-- A handler only sees what the step fails by. -/
theorem tryCatch {handle : StepFailure → Step σ α} (h : Step.FailsBy host x)
    (hhandle : ∀ e, e.Source host → Step.FailsBy host (handle e)) :
    Step.FailsBy host (tryCatchThe StepFailure x handle) := by
  intro s e s' hrun
  rw [run_step_tryCatch] at hrun
  rcases hx : x.run s with ⟨result, s₁⟩
  rw [hx] at hrun
  cases result with
  | ok a => cases hrun
  | error e' => exact hhandle e' (h s e' s₁ hx) s₁ e s' hrun

theorem forM {f : α → Step σ Unit} (h : ∀ a, Step.FailsBy host (f a)) (as : List α) :
    Step.FailsBy host (as.forM f) := by
  induction as with
  | nil => exact pure ()
  | cons a as ih => exact (h a).andThen fun _ => ih

end Step.FailsBy

/-- An operation fails by a call or by the search for a chart. The proof follows the calls of each
operation. -/
theorem Operation.perform_failsBy (host : Host σ) (limit : Option Nat) (op : Operation) :
    Step.FailsBy host (op.perform host limit) := by
  have hcall : ∀ r, Step.FailsBy host (call (host.answer r)) := Step.FailsBy.call
  cases op with
  | setValue a v =>
    exact (hcall (.value a)).andThen fun _ => (hcall (.formula a)).andThen fun _ =>
      (hcall (.setValue a v)).andThen fun _ => .pure _
  | setFormula a f =>
    exact (hcall (.formula a)).andThen fun _ => (hcall (.setFormula a f)).andThen fun _ => .pure _
  | formatBold a bold =>
    exact (hcall (.bold a)).andThen fun _ => (hcall (.setBold a bold)).andThen fun _ => .pure _
  | formatColor a color =>
    exact (hcall (.fill a)).andThen fun _ => (hcall (.setFill a color)).andThen fun _ => .pure _
  | formatFill a color =>
    exact (hcall (.fill a)).andThen fun _ => (hcall (.setFill a color)).andThen fun _ => .pure _
  | clear a => exact (hcall (.clear a)).andThen fun _ => .pure _
  | select a => exact (hcall (.select a)).andThen fun _ => .pure _
  | insertLines lines => exact (hcall (.insert lines lines.insertShift)).andThen fun _ => .pure _
  | deleteLines lines => exact (hcall (.delete lines lines.deleteShift)).andThen fun _ => .pure _
  | copy source target =>
    cases limit with
    | none =>
      exact (Step.FailsBy.pure []).andThen fun _ =>
        (hcall (.copy source target)).andThen fun _ => .pure _
    | some n =>
      exact (hcall (.snapshot target)).andThen fun cells =>
        (Step.FailsBy.pure (restoreBlock target n cells)).andThen fun _ =>
          (hcall (.copy source target)).andThen fun _ => .pure _
  | sort a key ascending => exact (hcall (.sort a key ascending)).andThen fun _ => .pure _
  | createSheet name =>
    refine Step.FailsBy.tryCatch ((hcall (.addSheet name)).andThen fun _ => .pure _) fun e he => ?_
    -- that a sheet of the name is there already is no failure
    split
    · exact .pure []
    · exact .throw he
  | deleteSheet name => exact (hcall (.deleteSheet name)).andThen fun _ => .pure _
  | renameSheet old new =>
    exact (hcall (.sheetName old)).andThen fun stored =>
      (hcall (.renameSheet stored new)).andThen fun _ => .pure _
  | activateSheet name => exact (hcall (.activateSheet name)).andThen fun _ => .pure _
  | createChart kind source title =>
    exact (hcall (.addChart kind source title)).andThen fun _ => .pure _
  | deleteChart term =>
    -- the search is among the charts that were listed
    refine (hcall .charts).bind fun s charts s' hlisted => ?_
    dsimp only
    cases hfound : findChart? charts term with
    | none =>
      have hlisted := Step.FailsBy.run_of_run_call hlisted
      exact (Step.FailsBy.throw (.search hlisted hfound)).andThen fun _ => .pure _
    | some found => exact (hcall (.deleteChart found.name)).andThen fun _ => .pure _
  | deleteAllCharts =>
    exact (hcall .charts).andThen fun charts =>
      (Step.FailsBy.forM (fun c : ChartEntry => hcall (.deleteChart c.name)) _).andThen fun _ =>
        .pure _

/-! ## Reports of attempts -/

/-- What is reported when a command fails. -/
def StepFailure.report? (c : Command) : StepFailure → Option String
  | .noChart term => some ("Chart not found: " ++ term)
  | .host (.error e) => some (if e.isSession then sessionReport e else commandReport c e.message)
  | .host (.stop _) => none

section

variable {host : Host σ} {limit : Option Nat} {cs : List Command} {c : Command} {a : Attempt}
  {s s' : σ}

/-- An attempt starts in the state that the attempts before it left. -/
theorem getElem?_trace {i : Nat} (h : (trace host limit cs s).attempts[i]? = some (c, a)) :
    cs[i]? = some c ∧ (attempt host limit c (trace host limit (cs.take i) s).state).1 = a := by
  induction cs generalizing s i with
  | nil => simp [trace] at h
  | cons d cs ih =>
    rcases hstep : attempt host limit d s with ⟨b, s₁⟩
    cases hends : b.ends with
    | true =>
      rw [trace_cons_of_ends hstep hends] at h
      cases i with
      | zero =>
        cases h
        exact ⟨rfl, congrArg Prod.fst hstep⟩
      | succ i => cases h
    | false =>
      rw [trace_cons hstep hends] at h
      cases i with
      | zero =>
        cases h
        exact ⟨rfl, congrArg Prod.fst hstep⟩
      | succ i =>
        rw [List.take_succ_cons, trace_cons hstep hends]
        exact ih h

/-- What is reported of a command that was understood is what its operation failed with. -/
theorem exists_failure_of_report? {op : Operation} {message : String}
    (hread : Operation.decode c = .ok op) (h : (attempt host limit c s).1.report? = some message) :
    ∃ failure s', (op.perform host limit).run s = (.error failure, s') ∧
      failure.report? c = some message := by
  rw [attempt, hread] at h
  rcases hrun : (op.perform host limit).run s with ⟨result, s'⟩
  simp only [hrun] at h
  cases result with
  | ok inverse => cases h
  | error failure =>
    refine ⟨failure, s', rfl, ?_⟩
    cases failure with
    | noChart term => exact h
    | host cause =>
      cases cause with
      | stop _ => cases h
      | error e =>
        cases he : e.isSession with
        | true => simpa [he, StepFailure.report?, Attempt.report?] using h
        | false => simpa [he, StepFailure.report?, Attempt.report?] using h

end

/-! ## Reports of batches -/

namespace Editor

/-- The reports that a batch can have if all its commands are understood. -/
inductive Reported (ed : Editor) (host : Host σ) (batch : List Command) (s : σ) : String → Prop
  /-- The session could not be opened. -/
  | start {e : HostError} {s₁ : σ} (failed : host.start.run s = (.error (.error e), s₁)) :
      Reported ed host batch s (sessionReport e)
  /-- The operation of a command failed, in the state that the commands before it left. -/
  | command {i : Nat} {c : Command} {op : Operation} {failure : StepFailure} {message : String}
      {s₁ s₂ : σ} (start : host.start.run s = (.ok (), s₁)) (listed : batch[i]? = some c)
      (read : Operation.decode c = .ok op)
      (failed : (op.perform host ed.copyLimit).run
        (trace host ed.copyLimit (batch.take i) s₁).state = (.error failure, s₂))
      (source : failure.Source host) (worded : failure.report? c = some message) :
      Reported ed host batch s message
  /-- The session could not be made final. -/
  | commit {e : HostError} {s₁ s₂ : σ} (start : host.start.run s = (.ok (), s₁))
      (failed : host.commit.run (trace host ed.copyLimit batch s₁).state =
        (.error (.error e), s₂)) :
      Reported ed host batch s (sessionReport e)

variable {ed : Editor} {host : Host σ} {batch : List Command} {s s₁ : σ}

/-- Each message of a batch that is understood comes from the host or from looking for a chart. -/
theorem reported_of_mem_reports (hread : ∀ c ∈ batch, ∃ op, Operation.decode c = .ok op)
    (hstart : host.start.run s = (.ok (), s₁)) {message : String}
    (h : message ∈ reports (trace host ed.copyLimit batch s₁).attempts) :
    ed.Reported host batch s message := by
  obtain ⟨⟨c, a⟩, hmem, hreport⟩ := List.mem_filterMap.mp h
  obtain ⟨i, hi⟩ := List.getElem?_of_mem hmem
  obtain ⟨hlisted, rfl⟩ := getElem?_trace hi
  obtain ⟨op, hop⟩ := hread c (List.mem_of_getElem? hlisted)
  obtain ⟨failure, s₂, hfailed, hworded⟩ := exists_failure_of_report? hop hreport
  exact .command hstart hlisted hop hfailed (op.perform_failsBy host _ _ _ _ hfailed) hworded

/-- If all commands of a batch are understood, its reports come from the document and the search for
charts only. -/
theorem Ends.reported {outcome : Outcome} {ed' : Editor} {s' : σ} {calls : List Request}
    (h : ed.Ends host batch s outcome ed' s' calls)
    (hread : ∀ c ∈ batch, ∃ op, Operation.decode c = .ok op) :
    ∀ message ∈ outcome.errors, ed.Reported host batch s message := by
  cases h with
  | notOpened start =>
    intro message hmem
    rw [List.mem_singleton.mp hmem]
    exact .start start
  | lost start run _ _ _ errors =>
    subst run
    rw [errors]
    exact fun message => reported_of_mem_reports hread start
  | notCommitted start run _ _ commit _ errors =>
    subst run
    rw [errors]
    intro message hmem
    rcases List.mem_append.mp hmem with hmem | hmem
    · exact reported_of_mem_reports hread start hmem
    · rw [List.mem_singleton.mp hmem]
      exact .commit start commit
  | committed start run _ _ _ _ errors =>
    subst run
    rw [errors]
    exact fun message => reported_of_mem_reports hread start

end Editor

end SheetScript
