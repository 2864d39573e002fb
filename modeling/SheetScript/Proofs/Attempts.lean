import SheetScript.Editor.Basic

/-!
# What becomes of each command

A session attempts the commands of its batch one after another. An attempt takes effect, is refused, or
loses the session, after which nothing is attempted. All that a session reports and records is told by
its attempts.

- `attempt`: one command on a document.
- `trace`: the attempts of a batch in order, each in the state that the one before it left.
- `length_trace_of_ends`, `map_fst_trace`: nothing is attempted after the session is lost, and else
  every command is.
- `doneCount_add_length_reports`: every attempt is counted once, as done or as reported.
- `runCommands_eq_trace`: the outcome and the inverse of a session are read off its attempts.
- `runBatch_of_start_error`, `runBatch_of_lost`, `runBatch_of_commit_error`, `runBatch_of_commit`: the
  four ways in which a batch ends.
-/

namespace SheetScript

/-- What became of a command of a batch. -/
inductive Attempt where
  /-- It took effect and can be undone by some commands. -/
  | done (inverse : List Command)
  | refused (report : String)
  /-- The session failed on it. -/
  | lost (cause : HostError)
  /-- It stopped everything. -/
  | stuck (why : Stop)
deriving DecidableEq, Repr

namespace Attempt

/-- Whether a command took effect. -/
def isDone : Attempt → Bool
  | done _ => true
  | _ => false

/-- Whether nothing is attempted any more. -/
def ends : Attempt → Bool
  | done _ | refused _ => false
  | lost _ | stuck _ => true

/-- The commands that undo an attempt. -/
def inverse : Attempt → List Command
  | done inverse => inverse
  | _ => []

/-- What is reported of an attempt that did not take effect. -/
def report? : Attempt → Option String
  | refused report => some report
  | lost cause => some (sessionReport cause)
  | done _ | stuck _ => none

/-- Why an attempt stopped everything, if it did. -/
def stop? : Attempt → Option Stop
  | stuck why => some why
  | _ => none

theorem stop?_of_ends {a : Attempt} (h : a.ends = false) : a.stop? = none := by
  cases a with
  | stuck why => cases h
  | _ => rfl

end Attempt

variable {σ : Type} (host : Host σ) (limit : Option Nat)

/-- Attempt one command within a session. -/
def attempt (c : Command) (s : σ) : Attempt × σ :=
  match Operation.decode c with
  | .error cause => (.refused (commandReport c cause.message), s)
  | .ok operation =>
    match (operation.perform host limit).run s with
    | (.ok inverse, s) => (.done inverse, s)
    | (.error (.noChart term), s) => (.refused ("Chart not found: " ++ term), s)
    | (.error (.host (.error e)), s) =>
      if e.isSession then (.lost e, s) else (.refused (commandReport c e.message), s)
    | (.error (.host (.stop why)), s) => (.stuck why, s)

/-- The commands that were attempted, with what became of them, and the document after them. -/
structure Trace (σ : Type) where
  attempts : List (Command × Attempt)
  state : σ

/-- Attempt the commands of a batch in order. -/
def trace : List Command → σ → Trace σ
  | [], s => ⟨[], s⟩
  | c :: cs, s =>
    let (a, s) := attempt host limit c s
    if a.ends then ⟨[(c, a)], s⟩
    else
      let rest := trace cs s
      ⟨(c, a) :: rest.attempts, rest.state⟩

variable {host limit}

/-! ## One attempt -/

section

variable {c : Command} {s s' : σ}

/-- A command that is not understood is refused, with the cause for a report. -/
theorem attempt_of_unread {cause : DecodeError} (h : Operation.decode c = .error cause) :
    attempt host limit c s = (.refused (commandReport c cause.message), s) := by
  rw [attempt, h]

theorem attempt_of_done {op : Operation} {inverse : List Command} (h : Operation.decode c = .ok op)
    (hrun : (op.perform host limit).run s = (.ok inverse, s')) :
    attempt host limit c s = (.done inverse, s') := by
  rw [attempt, h]
  simp only [hrun]

/-- A command that the host refuses is reported as long as the session is not lost. -/
theorem attempt_of_refused {op : Operation} {e : HostError} (h : Operation.decode c = .ok op)
    (hrun : (op.perform host limit).run s = (.error (.host (.error e)), s'))
    (he : e.isSession = false) :
    attempt host limit c s = (.refused (commandReport c e.message), s') := by
  rw [attempt, h]
  simp only [hrun]
  rw [he]
  rfl

theorem attempt_of_noChart {op : Operation} {term : String} (h : Operation.decode c = .ok op)
    (hrun : (op.perform host limit).run s = (.error (.noChart term), s')) :
    attempt host limit c s = (.refused ("Chart not found: " ++ term), s') := by
  rw [attempt, h]
  simp only [hrun]

/-- A call that stops everything leaves its command stuck. -/
theorem attempt_of_stop {op : Operation} {why : Stop} (h : Operation.decode c = .ok op)
    (hrun : (op.perform host limit).run s = (.error (.host (.stop why)), s')) :
    attempt host limit c s = (.stuck why, s') := by
  rw [attempt, h]
  simp only [hrun]

end

/-- After an attempt that ends the session no other command is attempted. -/
theorem trace_cons_of_ends {c : Command} {cs : List Command} {a : Attempt} {s s' : σ}
    (h : attempt host limit c s = (a, s')) (ha : a.ends = true) :
    trace host limit (c :: cs) s = ⟨[(c, a)], s'⟩ := by
  simp [trace, h, ha]

/-- After any other attempt the next command is attempted. -/
theorem trace_cons {c : Command} {cs : List Command} {a : Attempt} {s s' : σ}
    (h : attempt host limit c s = (a, s')) (ha : a.ends = false) :
    trace host limit (c :: cs) s =
      ⟨(c, a) :: (trace host limit cs s').attempts, (trace host limit cs s').state⟩ := by
  simp [trace, h, ha]

/-! ## Which commands are attempted -/

/-- The commands that were attempted are the first ones of the batch. -/
theorem map_fst_trace (cs : List Command) (s : σ) :
    (trace host limit cs s).attempts.map Prod.fst =
      cs.take (trace host limit cs s).attempts.length := by
  induction cs generalizing s with
  | nil => rfl
  | cons c cs ih =>
    rcases hstep : attempt host limit c s with ⟨a, s'⟩
    cases ha : a.ends with
    | true => simp [trace_cons_of_ends hstep ha]
    | false => simp [trace_cons hstep ha, ih s']

/-- An attempt that ends the session is the last one. -/
theorem length_trace_of_ends {cs : List Command} {s : σ} {i : Nat} {c : Command} {a : Attempt}
    (h : (trace host limit cs s).attempts[i]? = some (c, a)) (ha : a.ends = true) :
    (trace host limit cs s).attempts.length = i + 1 := by
  induction cs generalizing s i with
  | nil => simp [trace] at h
  | cons d cs ih =>
    rcases hstep : attempt host limit d s with ⟨b, s'⟩
    cases hb : b.ends with
    | true =>
      rw [trace_cons_of_ends hstep hb] at h ⊢
      cases i with
      | zero => rfl
      | succ i => simp at h
    | false =>
      rw [trace_cons hstep hb] at h ⊢
      cases i with
      | zero =>
        cases h
        rw [ha] at hb
        cases hb
      | succ i => rw [List.length_cons, ih h]

/-- If no attempt ends the session, every command is attempted. -/
theorem length_trace {cs : List Command} {s : σ}
    (h : ∀ x ∈ (trace host limit cs s).attempts, x.2.ends = false) :
    (trace host limit cs s).attempts.length = cs.length := by
  induction cs generalizing s with
  | nil => rfl
  | cons c cs ih =>
    rcases hstep : attempt host limit c s with ⟨a, s'⟩
    have ha : a.ends = false := by
      cases hends : a.ends with
      | false => rfl
      | true =>
        rw [trace_cons_of_ends hstep hends] at h
        rw [h (c, a) (List.mem_singleton_self _)] at hends
        cases hends
    rw [trace_cons hstep ha] at h ⊢
    rw [List.length_cons, List.length_cons, ih fun x hx => h x (List.mem_cons_of_mem _ hx)]

/-! ## What is counted and recorded -/

/-- How many of some attempts took effect. -/
def doneCount (attempts : List (Command × Attempt)) : Nat :=
  attempts.countP (·.2.isDone)

/-- The reports of some attempts, in order. -/
def reports (attempts : List (Command × Attempt)) : List String :=
  attempts.filterMap (·.2.report?)

/-- The commands that undo some attempts, the last one first. -/
def inverses (attempts : List (Command × Attempt)) : List Command :=
  attempts.reverse.flatMap (·.2.inverse)

/-- The inverse of the first command comes last. -/
theorem inverses_cons (x : Command × Attempt) (attempts : List (Command × Attempt)) :
    inverses (x :: attempts) = inverses attempts ++ x.2.inverse := by
  simp [inverses]

/-- Every attempt either took effect or was reported. -/
theorem doneCount_add_length_reports {attempts : List (Command × Attempt)}
    (h : ∀ x ∈ attempts, x.2.stop? = none) :
    doneCount attempts + (reports attempts).length = attempts.length := by
  induction attempts with
  | nil => rfl
  | cons x attempts ih =>
    have hrest := ih fun y hy => h y (List.mem_cons_of_mem _ hy)
    have hx := h x List.mem_cons_self
    rw [List.length_cons, ← hrest]
    obtain ⟨c, a⟩ := x
    cases a with
    | done inverse => simp [doneCount, reports, Attempt.isDone, Attempt.report?]; omega
    | refused report => simp [doneCount, reports, Attempt.isDone, Attempt.report?]; omega
    | lost cause => simp [doneCount, reports, Attempt.isDone, Attempt.report?]; omega
    | stuck why => cases hx

/-- What is known after some more attempts. -/
def Progress.after (p : Progress) (attempts : List (Command × Attempt)) : Progress where
  outcome := ⟨p.outcome.executed + doneCount attempts, p.outcome.errors ++ reports attempts⟩
  inverse := inverses attempts ++ p.inverse

theorem Progress.after_nil (p : Progress) : p.after [] = p := by
  simp [Progress.after, doneCount, reports, inverses]

/-- A command that took effect is counted, and its inverse goes in front. -/
theorem Progress.after_done (p : Progress) (c : Command) (inverse : List Command)
    (attempts : List (Command × Attempt)) :
    p.after ((c, .done inverse) :: attempts) = (p.done inverse).after attempts := by
  simp [Progress.after, Progress.done, doneCount, reports, inverses_cons, Attempt.isDone,
    Attempt.report?, Attempt.inverse, Nat.add_assoc, Nat.add_comm 1]

theorem Progress.after_refused (p : Progress) (c : Command) (report : String)
    (attempts : List (Command × Attempt)) :
    p.after ((c, .refused report) :: attempts) = (p.report report).after attempts := by
  simp [Progress.after, Progress.report, doneCount, reports, inverses_cons, Attempt.isDone,
    Attempt.report?, Attempt.inverse]

/-- The last report is that of the lost session. -/
theorem Progress.after_lost (p : Progress) (c : Command) (cause : HostError) :
    p.after [(c, .lost cause)] = p.report (sessionReport cause) := by
  simp [Progress.after, Progress.report, doneCount, reports, inverses, Attempt.isDone,
    Attempt.report?, Attempt.inverse]

/-! ## The run of a session -/

/-- The next command is attempted, and the session goes on with what became of it. -/
theorem runCommands_cons (c : Command) (cs : List Command) (p : Progress) (s : σ) :
    runCommands host limit (c :: cs) p s =
      match attempt host limit c s with
      | (.done inverse, s) => runCommands host limit cs (p.done inverse) s
      | (.refused report, s) => runCommands host limit cs (p.report report) s
      | (.lost cause, s) => .ok (.failed, p.report (sessionReport cause), s)
      | (.stuck why, _) => .error why := by
  rw [runCommands, attempt]
  cases Operation.decode c with
  | error cause => rfl
  | ok op =>
    simp only
    obtain ⟨r, s'⟩ := (op.perform host limit).run s
    cases r with
    | ok inverse => rfl
    | error failure =>
      cases failure with
      | noChart term => rfl
      | host cause =>
        cases cause with
        | stop why => rfl
        | error e => cases h : e.isSession <;> simp [h]

/-- A session that does not get stuck reports and records what its attempts say. It fails if one of
them ends it. -/
theorem runCommands_eq_trace {cs : List Command} {s : σ}
    (h : ∀ x ∈ (trace host limit cs s).attempts, x.2.stop? = none) (p : Progress) :
    runCommands host limit cs p s =
      .ok (if (trace host limit cs s).attempts.any (·.2.ends) then .failed else .open,
        p.after (trace host limit cs s).attempts, (trace host limit cs s).state) := by
  induction cs generalizing s p with
  | nil => simp [runCommands, trace, Progress.after_nil]
  | cons c cs ih =>
    rcases hstep : attempt host limit c s with ⟨a, s'⟩
    rw [runCommands_cons, hstep]
    cases a with
    | done inverse =>
      rw [trace_cons hstep rfl] at h ⊢
      rw [Progress.after_done]
      exact ih (fun x hx => h x (List.mem_cons_of_mem _ hx)) _
    | refused report =>
      rw [trace_cons hstep rfl] at h ⊢
      rw [Progress.after_refused]
      exact ih (fun x hx => h x (List.mem_cons_of_mem _ hx)) _
    | lost cause =>
      rw [trace_cons_of_ends hstep rfl, Progress.after_lost]
      rfl
    | stuck why =>
      rw [trace_cons_of_ends hstep rfl] at h
      cases h _ (List.mem_singleton_self _)

/-- A session with an attempt that stops everything has no result. -/
theorem runCommands_of_stuck {cs : List Command} {s : σ} {c : Command} {why : Stop}
    (h : (c, .stuck why) ∈ (trace host limit cs s).attempts) (p : Progress) :
    runCommands host limit cs p s = .error why := by
  induction cs generalizing s p with
  | nil => simp [trace] at h
  | cons d cs ih =>
    rcases hstep : attempt host limit d s with ⟨a, s'⟩
    rw [runCommands_cons, hstep]
    cases a with
    | done inverse =>
      rw [trace_cons hstep rfl] at h
      exact ih (by simpa using h) _
    | refused report =>
      rw [trace_cons hstep rfl] at h
      exact ih (by simpa using h) _
    | lost cause =>
      rw [trace_cons_of_ends hstep rfl] at h
      simp at h
    | stuck why' =>
      rw [trace_cons_of_ends hstep rfl] at h
      obtain ⟨-, rfl⟩ : c = d ∧ why = why' := by simpa using h
      rfl

/-! ## The run of a batch -/

section

variable {batch : List Command} {s s₁ s₂ : σ} {e : HostError} {t : Trace σ} {why : Stop}

/-- Opening the session stops everything. -/
theorem runBatch_of_start_stop (hne : batch ≠ [])
    (hstart : host.start.run s = (.error (.stop why), s₁)) :
    runBatch host limit batch s = .error why := by
  rw [runBatch, if_neg hne, hstart]

/-- A command stops everything. -/
theorem runBatch_of_stuck {c : Command} (hne : batch ≠ [])
    (hstart : host.start.run s = (.ok (), s₁)) (ht : trace host limit batch s₁ = t)
    (hstuck : (c, .stuck why) ∈ t.attempts) :
    runBatch host limit batch s = .error why := by
  subst ht
  rw [runBatch, if_neg hne, hstart]
  simp only [runCommands_of_stuck hstuck]

/-- The session cannot be opened. -/
theorem runBatch_of_start_error (hne : batch ≠ [])
    (hstart : host.start.run s = (.error (.error e), s₁)) :
    runBatch host limit batch s = .ok (⟨⟨0, [sessionReport e]⟩, []⟩, s₁) := by
  rw [runBatch, if_neg hne, hstart]
  rfl

/-- The session is lost on the way. -/
theorem runBatch_of_lost (hne : batch ≠ []) (hstart : host.start.run s = (.ok (), s₁))
    (ht : trace host limit batch s₁ = t) (hstop : ∀ x ∈ t.attempts, x.2.stop? = none)
    (hends : t.attempts.any (·.2.ends) = true) :
    runBatch host limit batch s =
      .ok (⟨⟨doneCount t.attempts, reports t.attempts⟩, []⟩, t.state) := by
  subst ht
  rw [runBatch, if_neg hne, hstart]
  simp [runCommands_eq_trace hstop, hends, Progress.after]

/-- Making the session final stops everything. -/
theorem runBatch_of_commit_stop (hne : batch ≠ []) (hstart : host.start.run s = (.ok (), s₁))
    (ht : trace host limit batch s₁ = t) (hopen : ∀ x ∈ t.attempts, x.2.ends = false)
    (hcommit : host.commit.run t.state = (.error (.stop why), s₂)) :
    runBatch host limit batch s = .error why := by
  subst ht
  have hstop : ∀ x ∈ (trace host limit batch s₁).attempts, x.2.stop? = none :=
    fun x hx => Attempt.stop?_of_ends (hopen x hx)
  have hany : (trace host limit batch s₁).attempts.any (·.2.ends) = false := by simpa using hopen
  rw [runBatch, if_neg hne, hstart]
  simp [runCommands_eq_trace hstop, hany, hcommit]

/-- The session cannot be made final. -/
theorem runBatch_of_commit_error (hne : batch ≠ []) (hstart : host.start.run s = (.ok (), s₁))
    (ht : trace host limit batch s₁ = t) (hopen : ∀ x ∈ t.attempts, x.2.ends = false)
    (hcommit : host.commit.run t.state = (.error (.error e), s₂)) :
    runBatch host limit batch s =
      .ok (⟨⟨doneCount t.attempts, reports t.attempts ++ [sessionReport e]⟩, []⟩, s₂) := by
  subst ht
  have hstop : ∀ x ∈ (trace host limit batch s₁).attempts, x.2.stop? = none :=
    fun x hx => Attempt.stop?_of_ends (hopen x hx)
  have hany : (trace host limit batch s₁).attempts.any (·.2.ends) = false := by simpa using hopen
  rw [runBatch, if_neg hne, hstart]
  simp [runCommands_eq_trace hstop, hany, Progress.after, Progress.report, hcommit]

/-- The session is made final. -/
theorem runBatch_of_commit (hne : batch ≠ []) (hstart : host.start.run s = (.ok (), s₁))
    (ht : trace host limit batch s₁ = t) (hopen : ∀ x ∈ t.attempts, x.2.ends = false)
    (hcommit : host.commit.run t.state = (.ok (), s₂)) :
    runBatch host limit batch s =
      .ok (⟨⟨doneCount t.attempts, reports t.attempts⟩, inverses t.attempts⟩, s₂) := by
  subst ht
  have hstop : ∀ x ∈ (trace host limit batch s₁).attempts, x.2.stop? = none :=
    fun x hx => Attempt.stop?_of_ends (hopen x hx)
  have hany : (trace host limit batch s₁).attempts.any (·.2.ends) = false := by simpa using hopen
  rw [runBatch, if_neg hne, hstart]
  simp [runCommands_eq_trace hstop, hany, Progress.after, hcommit]

/-- A batch that is stopped has no outcome. -/
theorem Editor.execute_of_stop (ed : Editor) (hlone : isLoneUndo batch = false)
    (h : runBatch host ed.copyLimit batch s = .error why) :
    ed.execute host batch s = .error why := by
  rw [execute, if_neg (by simp [hlone]), h]
  rfl

/-- A batch that is no lone undo is run, and its inverse is recorded. -/
theorem Editor.execute_of_runBatch (ed : Editor) {p : Progress} (hlone : isLoneUndo batch = false)
    (h : runBatch host ed.copyLimit batch s = .ok (p, s₁)) :
    ed.execute host batch s =
      .ok (p.outcome, { ed with history := ed.history.push p.inverse }, s₁) := by
  rw [execute, if_neg (by simp [hlone]), h]
  rfl

end

end SheetScript
