import SheetScript.Proofs.Accounting
import SheetScript.Proofs.Undo

/-!
# Undoing without a session

An undo takes the newest batch off the history before it opens a session. If the document opens none,
nothing is called on it but that, and the batch is lost all the same: the next undo, on whatever
document, goes one batch further back.

- `Editor.withoutNewest`: an editor that has forgotten its newest batch.
- `Editor.undo_eq`: what an undo does, told from the batches that are recorded.
- `Editor.executeAll_undo_closed`: several undos on a document that opens no session.
- `Editor.undo_closed`: one of them, and the undo after it.
-/

namespace SheetScript

namespace Editor

variable {σ : Type} {host : Host σ} {s s₁ : σ} {ed : Editor} {e : HostError} {batch : List Command}
  {older : List (List Command)}

/-- An editor that has forgotten the newest batch. -/
def withoutNewest (ed : Editor) : Editor :=
  { ed with history := { ed.history with batches := ed.history.batches.dropLast } }

/-- An undo runs the newest batch, which is not recorded any more. -/
theorem undo_eq (ed : Editor) (host : Host σ) (s : σ) :
    ed.undo host s =
      match ed.history.batches.getLast? with
      | none => .ok ({ errors := ["Nothing to undo"] }, ed, s)
      | some batch =>
        (runBatch host ed.copyLimit batch s).map fun (p, s) => (p.outcome, ed.withoutNewest, s) := by
  rw [undo, History.pop?]
  cases ed.history.batches.getLast? <;> rfl

theorem undo_of_start_error (hnewest : ed.history.batches.getLast? = some batch) (hne : batch ≠ [])
    (hclosed : host.start.run s = (.error (.error e), s₁)) :
    ed.undo host s = .ok (⟨0, [sessionReport e]⟩, ed.withoutNewest, s₁) := by
  rw [undo_eq, hnewest]
  simp only [runBatch_of_start_error hne hclosed]
  rfl

/-- Each undo on a document that opens no session loses one batch more. -/
theorem executeAll_undo_closed {u : Command} (hu : u.isUndo = true)
    (hne : ∀ batch ∈ ed.history.batches, batch ≠ [])
    (hclosed : host.start.run s = (.error (.error e), s)) {n : Nat}
    (hn : n ≤ ed.history.batches.length) :
    ed.executeAll host (List.replicate n [u]) s =
      .ok (List.replicate n ⟨0, [sessionReport e]⟩,
        { ed with history := { ed.history with
          batches := ed.history.batches.take (ed.history.batches.length - n) } }, s) := by
  induction n generalizing ed with
  | zero => simp [executeAll]
  | succ n ih =>
    have hsome : ed.history.batches ≠ [] := List.ne_nil_of_length_pos (by omega)
    have hnewest := List.getLast?_eq_some_getLast hsome
    have hfirst : ed.execute host [u] s =
        .ok (⟨0, [sessionReport e]⟩, ed.withoutNewest, s) := by
      rw [execute, if_pos (show isLoneUndo [u] = true from hu)]
      exact undo_of_start_error hnewest (hne _ (List.getLast_mem hsome)) hclosed
    have hlength : ed.withoutNewest.history.batches.length = ed.history.batches.length - 1 :=
      List.length_dropLast
    have htake : ed.withoutNewest.history.batches.take (ed.withoutNewest.history.batches.length - n) =
        ed.history.batches.take (ed.history.batches.length - (n + 1)) := by
      rw [hlength]
      show ed.history.batches.dropLast.take _ = _
      rw [List.dropLast_eq_take, List.take_take, Nat.min_eq_left (by omega), Nat.sub_sub,
        Nat.add_comm 1 n]
    have hrest : ed.withoutNewest.executeAll host (List.replicate n [u]) s =
        .ok (List.replicate n ⟨0, [sessionReport e]⟩,
          { ed with history := { ed.history with
            batches := ed.history.batches.take (ed.history.batches.length - (n + 1)) } }, s) := by
      rw [← htake]
      exact ih (fun b hb => hne b (List.dropLast_subset _ hb)) (by omega)
    exact executeAll_cons_eq_ok_iff.mpr ⟨_, _, _, _, hfirst, hrest, rfl⟩

/-- An undo on a document that opens no session reports why and does nothing there: opening is the only
call. But its batch is lost. The editor is no longer what it was, and the next undo runs the batch
before, or finds nothing to undo if there is none. -/
theorem undo_closed (hhistory : ed.history.batches = older ++ [batch]) (hne : batch ≠ [])
    (hclosed : host.start.run s = (.error (.error e), s₁)) :
    ed.undo host s = .ok (⟨0, [sessionReport e]⟩, ed.withoutNewest, s₁) ∧
      ed.undo host.recorded (s, []) =
        .ok (⟨0, [sessionReport e]⟩, ed.withoutNewest, s₁, [.start]) ∧
      ed.withoutNewest.history.batches = older ∧ ed.withoutNewest ≠ ed ∧
      ∀ {τ : Type} (host' : Host τ) (s' : τ), ed.withoutNewest.undo host' s' =
        match older.getLast? with
        | none => .ok ({ errors := ["Nothing to undo"] }, ed.withoutNewest, s')
        | some before =>
          (runBatch host' ed.copyLimit before s').map fun (p, s') =>
            (p.outcome, ed.withoutNewest.withoutNewest, s') := by
  have hnewest : ed.history.batches.getLast? = some batch := by rw [hhistory, List.getLast?_concat]
  have hbatches : ed.withoutNewest.history.batches = older := by
    show ed.history.batches.dropLast = older
    rw [hhistory, List.dropLast_concat]
  refine ⟨undo_of_start_error hnewest hne hclosed,
    undo_of_start_error hnewest hne (Host.run_recorded .start hclosed []), hbatches, ?_, ?_⟩
  · intro hsame
    rw [hsame, hhistory] at hbatches
    exact absurd hbatches (by simp)
  · intro τ host' s'
    rw [undo_eq, hbatches]
    rfl

/-- An editor that has recorded a batch, which puts back the text `a`. -/
def oneRecorded : Editor where
  history := History.new.push [.plain .setValue ["A1", "a"]]

/-- A workbook behind a connection that opens no session. -/
def readOnlyBook : Guarded where
  book := .new
  readOnly := true

theorem undo_closed_oneRecorded :
    oneRecorded.undo Guarded.host readOnlyBook =
        .ok (⟨0, ["Session error: document is read-only"]⟩, oneRecorded.withoutNewest,
          readOnlyBook) ∧
      oneRecorded.undo Guarded.host.recorded (readOnlyBook, []) =
        .ok (⟨0, ["Session error: document is read-only"]⟩, oneRecorded.withoutNewest,
          readOnlyBook, [.start]) ∧
      oneRecorded.withoutNewest.history.batches = [] ∧ oneRecorded.withoutNewest ≠ oneRecorded ∧
      ∀ {τ : Type} (host : Host τ) (s : τ), oneRecorded.withoutNewest.undo host s =
        .ok ({ errors := ["Nothing to undo"] }, oneRecorded.withoutNewest, s) :=
  have hhistory : oneRecorded.history.batches = [] ++ [[.plain .setValue ["A1", "a"]]] := rfl
  have hclosed : Guarded.host.start.run readOnlyBook =
      (.error (.error (.session "document is read-only")), readOnlyBook) := rfl
  undo_closed hhistory (by simp) hclosed

/-- A write, an undo while no session can be opened, and an undo when one can be opened again: there is
nothing to undo, and the text that was written is still there. -/
theorem undo_readOnly_then_undo :
    ((execute {} Guarded.host [.plain .setValue ["A1", "x"]] { book := .new }).bind
        fun (_, ed, g) => (ed.undo Guarded.host { g with readOnly := true }).bind
          fun (first, ed', g') => (ed'.undo Guarded.host { g' with readOnly := false }).map
            fun (second, _, g'') => (first, second, decide (ed' = ed), g''.book.valueAt "A1")) =
      .ok (⟨0, ["Session error: document is read-only"]⟩, ⟨0, ["Nothing to undo"]⟩, false,
        .ok "x") := by
  decide +kernel

end Editor

end SheetScript
