import SheetScript.Proofs.Alike
import SheetScript.Proofs.Changes

/-!
# The account of a batch

Whatever a document does, a batch on it ends in one of four ways, unless a call stops everything: its
session is not opened, it is lost on some command, it is not made final, or it is made final. Each way
fixes what is counted, what is reported, what is recorded in the history and which calls the document got.

- `Host.recorded_alike`: a document that keeps a list of its calls answers as it would without it.
- `Editor.Ends`: the four ways.
- `Editor.execute_ends`: every batch ends in one of them.
-/

namespace SheetScript

variable {σ : Type} {host : Host σ} {stops : Stop → Prop} {P : σ → Prop} {batch : List Command} {s s₁ : σ}

/-! ## The calls of a batch -/

/-- A document and a copy of it that keeps a list of its calls, within a session that was opened after
some calls. -/
def Host.InSession (P : σ → Prop) (before : List Request) (x : σ × List Request) (s : σ) : Prop :=
  x.1 = s ∧ P s ∧ ∃ calls, x.2 = before ++ calls ∧ ∀ r ∈ calls, r.isSession = false

/-- The list of calls changes no answer. -/
theorem Host.recorded_alike (h : host.Answers stops P) (before : List Request) :
    Host.Alike stops (InSession P before) host.recorded host := by
  rintro r hr ⟨s, _⟩ _ ⟨rfl, hs, calls, rfl, hcalls⟩
  obtain ⟨hresult, hs'⟩ := h r s hs
  refine ⟨_, _, _, answer_recorded host r s (before ++ calls), rfl, hresult, rfl, hs', calls ++ [r],
    List.append_assoc _ _ _, ?_⟩
  intro r' hr'
  rcases List.mem_append.mp hr' with hr' | hr'
  · exact hcalls r' hr'
  · rw [List.mem_singleton.mp hr']
    exact hr

/-- The attempts of a batch ask for no session. -/
theorem trace_recorded (limit : Option Nat) (h : host.Answers stops P) (cs : List Command) (hs : P s)
    (before : List Request) :
    ∃ calls, (∀ r ∈ calls, r.isSession = false) ∧
      trace host.recorded limit cs (s, before) =
        ⟨(trace host limit cs s).attempts, (trace host limit cs s).state, before ++ calls⟩ := by
  obtain ⟨attempts, ⟨_, _⟩, s', htrace, htrace', -, rfl, -, calls, rfl, hcalls⟩ :=
    trace_alike limit (Host.recorded_alike h before) cs
      (show Host.InSession P before (s, before) s from ⟨rfl, hs, [], by simp, by simp⟩)
  refine ⟨calls, hcalls, ?_⟩
  rw [htrace, htrace']

/-! ## The last report -/

/-- Among attempts that do not get stuck, one that ends the session was lost. -/
theorem exists_lost {attempts : List (Command × Attempt)}
    (hstop : ∀ x ∈ attempts, x.2.stop? = none) (hends : attempts.any (·.2.ends) = true) :
    ∃ (i : Nat) (c : Command) (e : HostError), attempts[i]? = some (c, .lost e) := by
  obtain ⟨⟨c, a⟩, hmem, ha⟩ := List.any_eq_true.mp hends
  obtain ⟨i, hi⟩ := List.getElem?_of_mem hmem
  cases a with
  | done _ => cases ha
  | refused _ => cases ha
  | lost e => exact ⟨i, c, e, hi⟩
  | stuck why => cases hstop _ hmem

/-- The account of a batch whose session was lost on the command at index `i`. Its cause is reported
last. -/
theorem account_of_lost {limit : Option Nat} {i : Nat} {c : Command} {e : HostError} {t : Trace σ}
    (ht : trace host limit batch s = t) (hstop : ∀ x ∈ t.attempts, x.2.stop? = none)
    (hlost : t.attempts[i]? = some (c, .lost e)) :
    t.attempts.map Prod.fst = batch.take (i + 1) ∧
      doneCount t.attempts + (reports t.attempts).length = i + 1 ∧
      (reports t.attempts).getLast? = some (sessionReport e) := by
  subst ht
  have hlength := length_trace_of_ends hlost rfl
  refine ⟨?_, ?_, ?_⟩
  · rw [map_fst_trace, hlength]
  · rw [doneCount_add_length_reports hstop, hlength]
  · have hend : (trace host limit batch s).attempts.getLast? = some (c, .lost e) := by
      rw [List.getLast?_eq_getElem?, hlength]
      exact hlost
    obtain ⟨before, hbefore⟩ := List.getLast?_eq_some_iff.mp hend
    rw [hbefore]
    simp [reports, Attempt.report?]

/-- The account of a batch whose session was kept. -/
theorem account_of_kept {limit : Option Nat} {t : Trace σ} (ht : trace host limit batch s = t)
    (hkept : ∀ x ∈ t.attempts, x.2.ends = false) :
    t.attempts.map Prod.fst = batch ∧
      doneCount t.attempts + (reports t.attempts).length = batch.length := by
  subst ht
  have hstop : ∀ x ∈ (trace host limit batch s).attempts, x.2.stop? = none :=
    fun x hx => Attempt.stop?_of_ends (hkept x hx)
  constructor
  · rw [map_fst_trace, length_trace hkept, List.take_length]
  · rw [doneCount_add_length_reports hstop, length_trace hkept]

/-! ## The four ways -/

namespace Editor

/-- How a batch can end: with an outcome, the editor and the document after it, and the calls that the
document got, in order. The commands that were attempted are read off a trace. -/
inductive Ends (ed : Editor) (host : Host σ) (batch : List Command) (s : σ) :
    Outcome → Editor → σ → List Request → Prop
  /-- The session could not be opened. The document got no other call. -/
  | notOpened {e : HostError} {s₁ : σ} (start : host.start.run s = (.error (.error e), s₁)) :
      Ends ed host batch s ⟨0, [sessionReport e]⟩ ed s₁ [.start]
  /-- The session was lost on the command at an index. The commands after it were not attempted, and
  the session was not made final. -/
  | lost {e : HostError} {s₁ : σ} {t : Trace σ} {i : Nat} {c : Command} {outcome : Outcome}
      {calls : List Request} (start : host.start.run s = (.ok (), s₁))
      (run : trace host ed.copyLimit batch s₁ = t) (cause : t.attempts[i]? = some (c, .lost e))
      (attempted : t.attempts.map Prod.fst = batch.take (i + 1))
      (executed : outcome.executed = doneCount t.attempts)
      (errors : outcome.errors = reports t.attempts)
      (account : outcome.executed + outcome.errors.length = i + 1)
      (last : outcome.errors.getLast? = some (sessionReport e))
      (within : ∀ r ∈ calls, r.isSession = false) :
      Ends ed host batch s outcome ed t.state (.start :: calls)
  /-- Every command was attempted, but the session could not be made final. -/
  | notCommitted {e : HostError} {s₁ s₂ : σ} {t : Trace σ} {outcome : Outcome} {calls : List Request}
      (start : host.start.run s = (.ok (), s₁)) (run : trace host ed.copyLimit batch s₁ = t)
      (kept : ∀ x ∈ t.attempts, x.2.ends = false) (attempted : t.attempts.map Prod.fst = batch)
      (commit : host.commit.run t.state = (.error (.error e), s₂))
      (executed : outcome.executed = doneCount t.attempts)
      (errors : outcome.errors = reports t.attempts ++ [sessionReport e])
      (account : outcome.executed + outcome.errors.length = batch.length + 1)
      (last : outcome.errors.getLast? = some (sessionReport e))
      (within : ∀ r ∈ calls, r.isSession = false) :
      Ends ed host batch s outcome ed s₂ (.start :: calls ++ [.commit])
  /-- The session was made final after every command was attempted. The inverses of the commands that
  took effect are recorded, the last one first, unless there are none. -/
  | committed {s₁ s₂ : σ} {t : Trace σ} {outcome : Outcome} {ed' : Editor} {calls : List Request}
      (start : host.start.run s = (.ok (), s₁)) (run : trace host ed.copyLimit batch s₁ = t)
      (kept : ∀ x ∈ t.attempts, x.2.ends = false) (attempted : t.attempts.map Prod.fst = batch)
      (commit : host.commit.run t.state = (.ok (), s₂))
      (executed : outcome.executed = doneCount t.attempts)
      (errors : outcome.errors = reports t.attempts)
      (account : outcome.executed + outcome.errors.length = batch.length)
      (recorded : ed' = { ed with history := ed.history.push (inverses t.attempts) })
      (nothing : inverses t.attempts = [] → ed' = ed)
      (within : ∀ r ∈ calls, r.isSession = false) :
      Ends ed host batch s outcome ed' s₂ (.start :: calls ++ [.commit])

variable (ed : Editor)

/-- A batch whose session was opened ends in one of the other three ways, or a call stops everything. -/
theorem execute_ends_of_start (h : host.Answers stops P) (hs₁ : P s₁) (hne : batch ≠ [])
    (hlone : isLoneUndo batch = false) (hstart : host.start.run s = (.ok (), s₁)) :
    (∃ outcome ed' s' calls,
      ed.execute host batch s = .ok (outcome, ed', s') ∧
      ed.execute host.recorded batch (s, []) = .ok (outcome, ed', s', calls) ∧
      ed.Ends host batch s outcome ed' s' calls) ∨
    ∃ why, stops why ∧ ed.execute host batch s = .error why ∧
      ed.execute host.recorded batch (s, []) = .error why := by
  have hstart' := Host.run_recorded .start hstart []
  obtain ⟨hstuck, hs₂⟩ := trace_answers ed.copyLimit h batch hs₁
  obtain ⟨calls, hcalls, htrace'⟩ := trace_recorded ed.copyLimit h batch hs₁ [.start]
  generalize htrace : trace host ed.copyLimit batch s₁ = t at hstuck hs₂ htrace'
  rcases attempts_cases t.attempts with hkept | ⟨hstop, hends⟩ | ⟨c, why, hmem⟩
  · obtain ⟨hattempted, haccount⟩ := account_of_kept htrace hkept
    rcases h.run_cases .commit hs₂ with
      ⟨_, s₂, hcommit, -⟩ | ⟨e, s₂, hcommit, -⟩ | ⟨why, s₂, hcommit, hwhy⟩
    · have hcommit' := Host.run_recorded .commit hcommit ([.start] ++ calls)
      refine Or.inl ⟨_, _, s₂, _,
        ed.execute_of_runBatch hlone (runBatch_of_commit hne hstart htrace hkept hcommit),
        ed.execute_of_runBatch hlone (runBatch_of_commit hne hstart' htrace' hkept hcommit'),
        .committed hstart htrace hkept hattempted hcommit rfl rfl haccount rfl ?_ hcalls⟩
      -- recording no commands records nothing
      intro hnone
      rw [hnone]
      rfl
    · have hcommit' := Host.run_recorded .commit hcommit ([.start] ++ calls)
      refine Or.inl ⟨_, _, s₂, _,
        ed.execute_of_runBatch hlone (runBatch_of_commit_error hne hstart htrace hkept hcommit),
        ed.execute_of_runBatch hlone (runBatch_of_commit_error hne hstart' htrace' hkept hcommit'),
        .notCommitted hstart htrace hkept hattempted hcommit rfl rfl ?_ List.getLast?_concat hcalls⟩
      rw [List.length_append, List.length_singleton, ← haccount, Nat.add_assoc]
    · have hcommit' := Host.run_recorded .commit hcommit ([.start] ++ calls)
      exact Or.inr ⟨why, hwhy,
        ed.execute_of_stop hlone (runBatch_of_commit_stop hne hstart htrace hkept hcommit),
        ed.execute_of_stop hlone (runBatch_of_commit_stop hne hstart' htrace' hkept hcommit')⟩
  · obtain ⟨i, c, e, hlost⟩ := exists_lost hstop hends
    obtain ⟨hattempted, haccount, hlast⟩ := account_of_lost htrace hstop hlost
    exact Or.inl ⟨_, _, _, _,
      ed.execute_of_runBatch hlone (runBatch_of_lost hne hstart htrace hstop hends),
      ed.execute_of_runBatch hlone (runBatch_of_lost hne hstart' htrace' hstop hends),
      .lost hstart htrace hlost hattempted rfl rfl haccount hlast hcalls⟩
  · exact Or.inr ⟨why, hstuck _ hmem why rfl,
      ed.execute_of_stop hlone (runBatch_of_stuck hne hstart htrace hmem),
      ed.execute_of_stop hlone (runBatch_of_stuck hne hstart' htrace' hmem)⟩

/-- Whatever a document does, a batch on it comes to an end in one of the four ways, unless a call stops
everything. -/
theorem execute_ends (h : host.Answers stops P) (hs : P s) (hne : batch ≠ [])
    (hlone : isLoneUndo batch = false) :
    (∃ outcome ed' s' calls,
      ed.execute host batch s = .ok (outcome, ed', s') ∧
      ed.execute host.recorded batch (s, []) = .ok (outcome, ed', s', calls) ∧
      (outcome.success = true ↔ outcome.errors = []) ∧
      ed.Ends host batch s outcome ed' s' calls) ∨
    ∃ why, stops why ∧ ed.execute host batch s = .error why ∧
      ed.execute host.recorded batch (s, []) = .error why := by
  rcases h.run_cases .start hs with
    ⟨_, s₁, hstart, hs₁⟩ | ⟨e, s₁, hstart, -⟩ | ⟨why, s₁, hstart, hwhy⟩
  · rcases ed.execute_ends_of_start h hs₁ hne hlone hstart with
      ⟨outcome, ed', s', calls, hrun, hrun', hends⟩ | hstop
    · exact Or.inl ⟨outcome, ed', s', calls, hrun, hrun', List.isEmpty_iff, hends⟩
    · exact Or.inr hstop
  · have hstart' := Host.run_recorded .start hstart []
    exact Or.inl ⟨_, _, s₁, _, ed.execute_of_runBatch hlone (runBatch_of_start_error hne hstart),
      ed.execute_of_runBatch hlone (runBatch_of_start_error hne hstart'), List.isEmpty_iff,
      .notOpened hstart⟩
  · have hstart' := Host.run_recorded .start hstart []
    exact Or.inr ⟨why, hwhy, ed.execute_of_stop hlone (runBatch_of_start_stop hne hstart),
      ed.execute_of_stop hlone (runBatch_of_start_stop hne hstart')⟩

/-- A workbook behind a connection that is lost on a text. -/
def lostOnText : Guarded where
  book := .new
  poison := some "b"

/-- Three writes, the second one of that text. -/
def threeWrites : List Command :=
  [.plain .setValue ["A1", "a"], .plain .setValue ["A2", "b"], .plain .setValue ["A3", "c"]]

theorem execute_ends_threeWrites :
    ∃ outcome ed' g calls,
      execute {} Guarded.host threeWrites lostOnText = .ok (outcome, ed', g) ∧
      execute {} Guarded.host.recorded threeWrites (lostOnText, []) =
        .ok (outcome, ed', g, calls) ∧
      (outcome.success = true ↔ outcome.errors = []) ∧
      Ends {} Guarded.host threeWrites lostOnText outcome ed' g calls := by
  have hsheets : lostOnText.book.sheets ≠ [] := by decide
  have hrun : (execute {} Guarded.host threeWrites lostOnText).isOk = true := by decide +kernel
  have hends := execute_ends {} (Guarded.answers Workbook.answers_sheets) hsheets
    (show threeWrites ≠ [] by decide) (by decide)
  rcases hends with hends | ⟨why, -, hstop, -⟩
  · exact hends
  · rw [hstop] at hrun
    cases hrun

end Editor

end SheetScript
