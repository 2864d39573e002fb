import SheetScript.Proofs.Alike
import SheetScript.Proofs.BoundedStack
import SheetScript.Proofs.Changes
import SheetScript.Proofs.Storing

/-!
# Sessions with reloads

A session may be left and taken up again: the workbook and the history are saved and loaded. As long as
the format gives back what is written in it, nobody notices, since what an editor records can be
stored: its commands have verbs, and the history is no longer than its depth.

- `Operation.verbs_of_perform`, `verbs_of_runBatch`: what is recorded has verbs.
- `History.Storable`: what a history must meet to be loaded as it was saved.
- `Editor.Goes`: what can happen to an editor; `Goes.storable`: its history can still be stored.
- `runEvents_eq_runEvents_interactions`: reloads change nothing of what a session shows and leaves.
- `reloads_invisible`: what is stored is read back, and so sessions are the same with reloads.
-/

namespace SheetScript

/-! ## What is recorded -/

/-- Whether every command of a batch has a verb. -/
def HaveVerbs (batch : List Command) : Prop :=
  ∀ c ∈ batch, ∃ v, c.kind = .verb v

namespace HaveVerbs

variable {batch batch' : List Command}

theorem nil : HaveVerbs [] :=
  fun _ hc => absurd hc List.not_mem_nil

theorem plain (v : Verb) (args : List String) : HaveVerbs [.plain v args] := by
  intro c hc
  rw [List.mem_singleton] at hc
  exact ⟨v, by rw [hc]; rfl⟩

/-- Two batches with verbs make one. -/
theorem append (h : HaveVerbs batch) (h' : HaveVerbs batch') : HaveVerbs (batch ++ batch') := by
  intro c hc
  rcases List.mem_append.mp hc with hc | hc
  · exact h c hc
  · exact h' c hc

/-- What puts contents back is written with a verb, be it a value or a formula. -/
theorem restoreContents (place : Grid.Address) (value formula : String) :
    HaveVerbs [SheetScript.restoreContents place value formula] := by
  unfold SheetScript.restoreContents
  split
  · exact plain _ _
  · exact plain _ _

theorem restoreCell (placed : PlacedCell) : HaveVerbs (SheetScript.restoreCell placed) := by
  unfold SheetScript.restoreCell
  refine append (append ?_ ?_) ?_
  · split
    · exact plain _ _
    · split
      · exact nil
      · exact plain _ _
  · split
    · exact plain _ _
    · exact nil
  · split
    · exact nil
    · exact plain _ _

/-- So is what puts a block back, cell by cell. -/
theorem restoreBlock (target : Grid.Address) (limit : Nat) (cells : List PlacedCell) :
    HaveVerbs (SheetScript.restoreBlock target limit cells) := by
  unfold SheetScript.restoreBlock
  split
  · exact nil
  · refine append (plain .clear _) ?_
    intro c hc
    obtain ⟨placed, -, hc⟩ := List.mem_flatMap.mp hc
    exact restoreCell placed c hc

end HaveVerbs

section

variable {σ α β : Type}

/-- What a step gives, if it gives anything. -/
def Step.Gives (x : Step σ α) (P : α → Prop) : Prop :=
  ∀ s a s', x.run s = (.ok a, s') → P a

namespace Step.Gives

variable {x : Step σ α} {P : α → Prop} {Q : β → Prop}

theorem pure {a : α} (h : P a) : Step.Gives (Pure.pure a : Step σ α) P := by
  intro s b s' hrun
  cases hrun
  exact h

theorem throw (e : StepFailure) : Step.Gives (MonadExcept.throw e : Step σ α) P := by
  intro s b s' hrun
  cases hrun

theorem any (x : Step σ α) : Step.Gives x fun _ => True :=
  fun _ _ _ _ => trivial

/-- What a later step gives follows from what the earlier one gave. -/
theorem bind (h : Step.Gives x P) {k : α → Step σ β} (hk : ∀ a, P a → Step.Gives (k a) Q) :
    Step.Gives (x >>= k) Q := by
  intro s b s' hrun
  rw [run_step_bind] at hrun
  split at hrun
  next a s₁ hx => exact hk a (h s a s₁ hx) s₁ b s' hrun
  · cases hrun

/-- After any step all depends on what follows. -/
theorem andThen (x : Step σ α) {k : α → Step σ β} (hk : ∀ a, Step.Gives (k a) Q) :
    Step.Gives (x >>= k) Q :=
  (any x).bind fun a _ => hk a

theorem tryCatch {handle : StepFailure → Step σ α} (h : Step.Gives x P)
    (hhandle : ∀ e, Step.Gives (handle e) P) :
    Step.Gives (tryCatchThe StepFailure x handle) P := by
  intro s a s' hrun
  rw [run_step_tryCatch] at hrun
  split at hrun
  next hx =>
    cases hrun
    exact h s a s' hx
  · exact hhandle _ _ a s' hrun

end Step.Gives

open Step.Gives in
/-- Every command that an operation records has a verb. -/
theorem Operation.verbs_of_perform (host : Host σ) (limit : Option Nat) (op : Operation) :
    Step.Gives (op.perform host limit) HaveVerbs := by
  cases op with
  | setValue place value =>
    exact andThen _ fun _ => andThen _ fun _ => andThen _ fun _ => pure (.restoreContents _ _ _)
  | setFormula place formula => exact andThen _ fun _ => andThen _ fun _ => pure (.plain _ _)
  | formatBold place bold => exact andThen _ fun _ => andThen _ fun _ => pure (.plain _ _)
  | formatColor place color => exact andThen _ fun _ => andThen _ fun _ => pure (.plain _ _)
  | formatFill place color => exact andThen _ fun _ => andThen _ fun _ => pure (.plain _ _)
  | clear place => exact andThen _ fun _ => pure .nil
  | select place => exact andThen _ fun _ => pure .nil
  | insertLines lines => exact andThen _ fun _ => pure (.plain _ _)
  | deleteLines lines => exact andThen _ fun _ => pure .nil
  | copy source target =>
    cases limit with
    | none =>
      exact (pure (P := HaveVerbs) .nil).bind fun restore hrestore =>
        andThen _ fun _ => pure hrestore
    | some limit =>
      exact andThen _ fun cells =>
        (pure (P := HaveVerbs) (.restoreBlock target limit cells)).bind fun restore hrestore =>
          andThen _ fun _ => pure hrestore
  | sort place key ascending => exact andThen _ fun _ => pure .nil
  | createSheet name =>
    refine tryCatch (andThen _ fun _ => pure (.plain _ _)) fun e => ?_
    split
    · exact pure .nil
    · exact throw _
  | deleteSheet name => exact andThen _ fun _ => pure .nil
  | renameSheet old new => exact andThen _ fun _ => andThen _ fun _ => pure (.plain _ _)
  | activateSheet name => exact andThen _ fun _ => pure .nil
  | createChart kind source title => exact andThen _ fun _ => pure (.plain _ _)
  | deleteChart term =>
    refine andThen _ fun charts => ?_
    split
    · exact andThen _ fun _ => pure .nil
    · exact andThen _ fun _ => pure .nil
  | deleteAllCharts => exact andThen _ fun _ => andThen _ fun _ => pure .nil

variable {host : Host σ} {limit : Option Nat} {s s' : σ}

/-- What is recorded for a command has verbs only: no inverse is written under a name that is not known. -/
theorem verbs_of_attempt {c : Command} {inverse : List Command}
    (h : attempt host limit c s = (.done inverse, s')) : HaveVerbs inverse := by
  rw [attempt] at h
  split at h
  · cases h
  next op hop =>
    split at h
    next hrun =>
      cases h
      exact op.verbs_of_perform host limit s inverse s' hrun
    · cases h
    · split at h
      · cases h
      · cases h
    · cases h

/-- So has what is recorded for a batch, by one command after another. -/
theorem verbs_of_runCommands {cs : List Command} {p p' : Progress} {state : SessionState}
    (h : runCommands host limit cs p s = .ok (state, p', s')) (hp : HaveVerbs p.inverse) :
    HaveVerbs p'.inverse := by
  induction cs generalizing p s with
  | nil =>
    cases h
    exact hp
  | cons c cs ih =>
    rw [runCommands_cons] at h
    rcases hstep : attempt host limit c s with ⟨a, s₁⟩
    rw [hstep] at h
    cases a with
    | done inverse => exact ih h ((verbs_of_attempt hstep).append hp)
    | refused report => exact ih h hp
    | lost cause =>
      cases h
      exact hp
    | stuck => cases h

/-- The inverse of a batch has verbs only. -/
theorem verbs_of_runBatch {batch : List Command} {p : Progress}
    (h : runBatch host limit batch s = .ok (p, s')) : HaveVerbs p.inverse := by
  rw [runBatch] at h
  split at h
  · cases h
    exact .nil
  split at h
  · cases h
  · cases h
    exact .nil
  split at h
  · cases h
  · cases h
    exact .nil
  next hrun =>
    split at h
    · cases h
    · cases h
      exact .nil
    · cases h
      exact verbs_of_runCommands hrun .nil

end

/-! ## What can be stored -/

namespace History

variable {h : History} {depth : Nat}

/-- What makes a history the same after it was saved and loaded with a depth. -/
structure Storable (h : History) (depth : Nat) : Prop where
  depth_eq : h.depth = max depth 1
  length_le : h.batches.length ≤ h.depth
  kinds : h.KindsNamed

namespace Storable

/-- What is loaded with a depth can be stored, as long as its kinds are named. -/
theorem of_setDepth (hkinds : h.KindsNamed) (depth : Nat) : (h.setDepth depth).Storable depth where
  depth_eq := rfl
  length_le := length_trimmed_le _
  kinds b hb := hkinds b ((trimmed_suffix _).mem hb)

/-- A batch is added to a history that can be stored, and cut to its depth. -/
theorem push (hs : h.Storable depth) {batch : List Command} (hbatch : HaveVerbs batch) :
    (h.push batch).Storable depth where
  depth_eq := depth_push.trans hs.depth_eq
  length_le := by
    rw [depth_push]
    exact length_push_le hs.length_le batch
  kinds b hb c hc := by
    rcases mem_push hb with hb | ⟨rfl, -⟩
    · exact hs.kinds b hb c hc
    · obtain ⟨v, hv⟩ := hbatch c hc
      rw [hv]
      exact Kind.isNamed_verb v

/-- Taking a batch off a history leaves one that can be stored. -/
theorem pop {newest : List Command} {rest : History} (hs : h.Storable depth)
    (hpop : h.pop? = some (newest, rest)) : rest.Storable depth := by
  rw [pop?, Option.map_eq_some_iff] at hpop
  obtain ⟨batch, -, hrest⟩ := hpop
  cases hrest
  exact {
    depth_eq := hs.depth_eq
    length_le := (List.dropLast_prefix _).length_le.trans hs.length_le
    kinds := fun b hb => hs.kinds b (List.mem_of_mem_dropLast hb) }

end Storable

end History

/-! ## What happens to an editor -/

section

variable {σ : Type} {host : Host σ} {ed ed' : Editor} {s s' : σ} {depth : Nat}

namespace Editor

/-- What an undo, a batch or a turn makes of an editor. -/
inductive Goes (host : Host σ) (s : σ) (ed : Editor) : Editor → Prop
  | stays : Goes host s ed ed
  | pops {newest : List Command} {rest : History} (h : ed.history.pop? = some (newest, rest)) :
      Goes host s ed { ed with history := rest }
  | pushes {batch : List Command} {p : Progress} {s' : σ}
      (h : runBatch host ed.copyLimit batch s = .ok (p, s')) :
      Goes host s ed { ed with history := ed.history.push p.inverse }

/-- An undo pops, or it stays if there is nothing to undo. -/
theorem goes_undo {outcome : Outcome} (h : ed.undo host s = .ok (outcome, ed', s')) :
    ed.Goes host s ed' := by
  rw [undo] at h
  split at h
  · cases h
    exact .stays
  next hpop =>
    obtain ⟨_, -, heq⟩ := map_eq_ok_iff.mp h
    cases heq
    exact .pops hpop

/-- A batch pushes what it records, unless it is an undo. -/
theorem goes_execute {outcome : Outcome} {batch : List Command}
    (h : ed.execute host batch s = .ok (outcome, ed', s')) : ed.Goes host s ed' := by
  rw [execute] at h
  split at h
  · exact goes_undo h
  · obtain ⟨⟨p, s₁⟩, hrun, heq⟩ := map_eq_ok_iff.mp h
    cases heq
    exact .pushes hrun

/-- A turn stays unless its batch is executed. -/
theorem goes_runTurn {turn : Turn} {text : String}
    (h : ed.runTurn host text s = .ok (turn, ed', s')) : ed.Goes host s ed' := by
  rw [runTurn] at h
  split at h
  · obtain ⟨⟨outcome, ed₁, s₁⟩, hrun, heq⟩ := map_eq_ok_iff.mp h
    cases heq
    exact goes_execute hrun
  · cases h
    exact .stays

namespace Goes

/-- A history that can be stored stays one. -/
theorem storable (h : ed.Goes host s ed') (hed : ed.history.Storable depth) :
    ed'.history.Storable depth := by
  cases h with
  | stays => exact hed
  | pops hpop => exact hed.pop hpop
  | pushes hrun => exact hed.push (verbs_of_runBatch hrun)

theorem copyLimit (h : ed.Goes host s ed') : ed'.copyLimit = ed.copyLimit := by
  cases h <;> rfl

end Goes

end Editor

end

/-! ## Sessions -/

/-- What can be done in a session. -/
inductive Interaction where
  /-- Take a reply from its text to an executed batch. -/
  | turn (text : String)
  | undo
  | execute (batch : List Command)
deriving DecidableEq, Repr

namespace Interaction

/-- What is shown for it. -/
inductive Answer where
  | turn (turn : Turn)
  | outcome (outcome : Outcome)
deriving DecidableEq, Repr

/-- The answer to an interaction, and the editor and the workbook after it. -/
def run : Interaction → Editor → Workbook → Except Stop (Answer × Editor × Workbook)
  | turn text, ed, w =>
    (ed.runTurn Workbook.host text w).map fun (t, ed, w) => (.turn t, ed, w)
  | undo, ed, w =>
    (ed.undo Workbook.host w).map fun (outcome, ed, w) => (.outcome outcome, ed, w)
  | execute batch, ed, w =>
    (ed.execute Workbook.host batch w).map fun (outcome, ed, w) => (.outcome outcome, ed, w)

variable {ed : Editor} {w : Workbook} {depth : Nat}

/-- An interaction comes to an end, and what it leaves can be stored, unless it stops everything. -/
theorem run_storable (i : Interaction) (hw : w.sheets ≠ []) (hed : ed.history.Storable depth) :
    (∃ a ed' w', i.run ed w = .ok (a, ed', w') ∧ w'.sheets ≠ [] ∧ ed'.history.Storable depth) ∨
      ∃ why, i.run ed w = .error why := by
  cases i with
  | turn text =>
    rcases ed.runTurn_answers Workbook.answers_sheets text hw with
      ⟨turn, ed', w', hrun, hw'⟩ | ⟨why, hrun, -⟩
    · exact Or.inl ⟨.turn turn, ed', w', by rw [run, hrun]; rfl, hw',
        (Editor.goes_runTurn hrun).storable hed⟩
    · exact Or.inr ⟨why, by rw [run, hrun]; rfl⟩
  | undo =>
    rcases ed.undo_answers Workbook.answers_sheets hw with
      ⟨outcome, ed', w', hrun, hw'⟩ | ⟨why, hrun, -⟩
    · exact Or.inl ⟨.outcome outcome, ed', w', by rw [run, hrun]; rfl, hw',
        (Editor.goes_undo hrun).storable hed⟩
    · exact Or.inr ⟨why, by rw [run, hrun]; rfl⟩
  | execute batch =>
    rcases ed.execute_answers Workbook.answers_sheets batch hw with
      ⟨outcome, ed', w', hrun, hw'⟩ | ⟨why, hrun, -⟩
    · exact Or.inl ⟨.outcome outcome, ed', w', by rw [run, hrun]; rfl, hw',
        (Editor.goes_execute hrun).storable hed⟩
    · exact Or.inr ⟨why, by rw [run, hrun]; rfl⟩

end Interaction

/-- What happens in a session. -/
inductive Event where
  | interaction (i : Interaction)
  /-- The workbook and the history are saved and loaded. -/
  | reload
deriving DecidableEq, Repr

namespace Event

/-- Whether an event is no reload. -/
def isInteraction : Event → Bool
  | interaction _ => true
  | reload => false

end Event

/-- The editor and the workbook after they were saved and loaded with a depth. -/
def reload? (format : Format) (depth : Nat) (ed : Editor) (w : Workbook) :
    Option (Editor × Workbook) := do
  let book ← Workbook.load? format (some (w.save format))
  let history ← History.load? format depth (some (ed.history.save format))
  return ({ ed with history }, book)

/-- All that is seen of a session: each answer with the editor and the workbook after it, and at last
the editor and the workbook in the end, or what stopped everything. -/
structure Transcript where
  answers : List (Interaction.Answer × Editor × Workbook)
  ending : Except Stop (Editor × Workbook)

/-- A session in which some events happen. There is none if something that was saved cannot be loaded. -/
def runEvents (format : Format) (depth : Nat) : List Event → Editor → Workbook → Option Transcript
  | [], ed, w => some ⟨[], .ok (ed, w)⟩
  | .interaction i :: events, ed, w =>
    match i.run ed w with
    | .ok (answer, ed, w) => do
      let rest ← runEvents format depth events ed w
      return { rest with answers := (answer, ed, w) :: rest.answers }
    | .error why => some ⟨[], .error why⟩
  | .reload :: events, ed, w => do
    let (ed, w) ← reload? format depth ed w
    runEvents format depth events ed w

/-- The trees that are written at the reloads of a session, if the reloads change nothing. -/
def storedTrees : List Event → Editor → Workbook → List Value
  | [], _, _ => []
  | .interaction i :: events, ed, w =>
    match i.run ed w with
    | .ok (_, ed, w) => storedTrees events ed w
    | .error _ => []
  | .reload :: events, ed, w =>
    w.toValue :: ed.history.toValue :: storedTrees events ed w

section

variable {format : Format} {depth : Nat} {ed : Editor} {w : Workbook}

/-- What is saved and loaded is the same editor and the same workbook. -/
theorem reload?_eq (hed : ed.history.Storable depth) (hbook : format.Keeps w.toValue)
    (hhistory : format.Keeps ed.history.toValue) : reload? format depth ed w = some (ed, w) := by
  rw [reload?, Workbook.load?_save hbook, History.load?_save hed.kinds hhistory,
    History.setDepth_eq_self hed.depth_eq hed.length_le]
  rfl

/-- A session comes to an end, and its reloads change nothing of what is seen of it. -/
theorem runEvents_eq_runEvents_interactions (events : List Event) (hw : w.sheets ≠ [])
    (hed : ed.history.Storable depth) (hkeeps : ∀ v ∈ storedTrees events ed w, format.Keeps v) :
    ∃ t, runEvents format depth events ed w = some t ∧
      runEvents format depth (events.filter (·.isInteraction)) ed w = some t := by
  induction events generalizing ed w with
  | nil => exact ⟨⟨[], .ok (ed, w)⟩, rfl, rfl⟩
  | cons event events ih =>
    cases event with
    | interaction i =>
      rw [List.filter_cons_of_pos rfl]
      rcases i.run_storable hw hed with ⟨answer, ed', w', hrun, hw', hed'⟩ | ⟨why, hrun⟩
      · rw [storedTrees, hrun] at hkeeps
        obtain ⟨t, hall, hinteractions⟩ := ih hw' hed' hkeeps
        refine ⟨{ t with answers := (answer, ed', w') :: t.answers }, ?_, ?_⟩
        · rw [runEvents, hrun]
          simp [hall]
        · rw [runEvents, hrun]
          simp [hinteractions]
      · -- the session is over, and no later reload happens
        exact ⟨⟨[], .error why⟩, by rw [runEvents, hrun], by rw [runEvents, hrun]⟩
    | reload =>
      rw [storedTrees, List.forall_mem_cons, List.forall_mem_cons] at hkeeps
      obtain ⟨hbook, hhistory, hkeeps⟩ := hkeeps
      obtain ⟨t, hall, hinteractions⟩ := ih hw hed hkeeps
      refine ⟨t, ?_, ?_⟩
      · rw [runEvents, reload?_eq hed hbook hhistory]
        exact hall
      · rw [List.filter_cons_of_neg (by simp [Event.isInteraction])]
        exact hinteractions

end

/-- A format that gives back the trees that are written loses nothing. Each sheet is the sheet of its
stored form, a workbook is loaded as it was saved, and so is a history, cut to the depth it is loaded
with. So a session shows the same answers, workbooks and histories with reloads as without, wherever
they happen. -/
theorem reloads_invisible (format : Format) :
    (∀ w : Workbook, w.sheets.mapM (fun s => (StoredSheet.ofSheet s).toSheet) = .ok w.sheets) ∧
      (∀ w : Workbook, format.Keeps w.toValue →
        Workbook.load? format (some (w.save format)) = some w) ∧
      (∀ (h : History) (depth : Nat), h.KindsNamed → format.Keeps h.toValue →
        History.load? format depth (some (h.save format)) = some (h.setDepth depth)) ∧
      ∀ (events : List Event) (depth : Nat) (ed : Editor) (w : Workbook), w.sheets ≠ [] →
        1 ≤ depth → ed.history.depth = depth → ed.history.batches.length ≤ depth →
        ed.history.KindsNamed → (∀ v ∈ storedTrees events ed w, format.Keeps v) →
        ∃ t, runEvents format depth events ed w = some t ∧
          runEvents format depth (events.filter (·.isInteraction)) ed w = some t := by
  refine ⟨fun w => ?_, fun w hbook => Workbook.load?_save hbook,
    fun h depth hkinds hkeeps => History.load?_save hkinds hkeeps depth, ?_⟩
  · induction w.sheets with
    | nil => rfl
    | cons s sheets ih =>
      rw [List.mapM_cons, StoredSheet.toSheet_ofSheet, ih]
      rfl
  · intro events depth ed w hw hpos hdepth hlength hkinds hkeeps
    have hed : ed.history.Storable depth :=
      ⟨hdepth.trans (Nat.max_eq_left hpos).symm, hdepth ▸ hlength, hkinds⟩
    exact runEvents_eq_runEvents_interactions events hw hed hkeeps

/-- A turn that writes a text, a reload, and an undo. -/
def writeReloadUndo : List Event :=
  [.interaction (.turn "SET_VALUE|A1|x"), .reload, .interaction .undo]

/-- A history of two batches. -/
def twoUndoable : History where
  depth := 20
  batches := [[.plain .clear ["A1"]], [.plain .setValue ["A1", "7"], .plain .formatBold ["A1", "true"]]]

theorem reloads_invisible_writeReloadUndo :
    Workbook.load? .yaml (some (Workbook.new.save .yaml)) = some .new ∧
      History.load? .yaml 1 (some (twoUndoable.save .yaml)) = some (twoUndoable.setDepth 1) ∧
      ∃ t, runEvents .yaml 20 writeReloadUndo {} .new = some t ∧
        runEvents .yaml 20 (writeReloadUndo.filter (·.isInteraction)) {} .new = some t := by
  obtain ⟨-, hbook, hhistory, hsession⟩ := reloads_invisible .yaml
  exact ⟨hbook .new (by decide +kernel), hhistory twoUndoable 1 (by decide) (by decide +kernel),
    hsession writeReloadUndo 20 {} .new (by decide) (by decide) rfl (by decide) (by decide)
      (by decide +kernel)⟩

end SheetScript
