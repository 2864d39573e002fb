import SheetScript.Proofs.Expansions
import SheetScript.Proofs.Prose
import SheetScript.Proofs.Refusals
import SheetScript.Proofs.Sources

/-!
# Turns with a checked batch

A batch runs only if every command of it is an operation. Otherwise nothing runs: the document gets no
call, and each command that is no operation is reported with its place. When a batch does run, nothing
it reports is due to a command that could not be understood.

- `Problems`: the problems of a batch, one for each command that is no operation.
- `Editor.runTurn_of_rejected`, `Editor.runTurn_of_ready`: the two ways on from the check.
- `Reply.IsMacroLine`, `Reply.exists_of_isMacroLine`: lines with a row macro, and what they stand for.
- `Editor.Checked`, `Editor.runTurn_checked`: what the check is worth, for every reply that is no lone
  undo.
-/

namespace SheetScript

/-! ## Problems -/

/-- Whether a command is no operation. -/
def Command.isRefused (c : Command) : Bool :=
  (Operation.decode c).toOption.isNone

/-- A command is refused if it is not read as an operation. -/
theorem Command.isRefused_eq_true_iff {c : Command} :
    c.isRefused = true ↔ ∃ cause, Operation.decode c = .error cause := by
  rw [isRefused]
  cases Operation.decode c <;> simp [Except.toOption]

theorem Command.isRefused_eq_false_iff {c : Command} :
    c.isRefused = false ↔ ∃ op, Operation.decode c = .ok op := by
  rw [isRefused]
  cases Operation.decode c <;> simp [Except.toOption]

/-- A list of all problems of a batch: one for each command that is no operation, with its place in the
batch counted from one, and in the order of the batch. -/
structure Problems (batch : List Command) (problems : List Issue) : Prop where
  ascending : problems.Pairwise fun i j => i.position < j.position
  mem_iff : ∀ issue, issue ∈ problems ↔ ∃ (i : Nat) (c : Command) (cause : DecodeError),
    batch[i]? = some c ∧ Operation.decode c = .error cause ∧
      issue = ⟨i + 1, cause, c.label, c.kind.issueKind⟩
  count : problems.length = batch.countP Command.isRefused

section

variable {batch cs : List Command} {position : Nat}

/-- A refused command is reported at its position. -/
theorem issuesFrom_cons_of_error {c : Command} {cause : DecodeError}
    (h : Operation.decode c = .error cause) :
    issuesFrom position (c :: cs) =
      ⟨position, cause, c.label, c.kind.issueKind⟩ :: issuesFrom (position + 1) cs := by
  rw [issuesFrom, issueOf?, h]
  rfl

theorem issuesFrom_cons_of_ok {c : Command} {op : Operation} (h : Operation.decode c = .ok op) :
    issuesFrom position (c :: cs) = issuesFrom (position + 1) cs := by
  rw [issuesFrom, issueOf?, h]
  rfl

/-- The problems of the commands from a place on are at their places. -/
theorem mem_issuesFrom_iff (position : Nat) (cs : List Command) (issue : Issue) :
    issue ∈ issuesFrom position cs ↔ ∃ (i : Nat) (c : Command) (cause : DecodeError),
      cs[i]? = some c ∧ Operation.decode c = .error cause ∧
        issue = ⟨i + position, cause, c.label, c.kind.issueKind⟩ := by
  -- the commands behind the first one are counted from the next place on
  induction cs generalizing position with
  | nil => simp [issuesFrom]
  | cons c cs ih =>
    have hplace : ∀ i, i + 1 + position = i + (position + 1) := fun i => by omega
    constructor
    · intro hmem
      have hcases : (∃ cause, Operation.decode c = .error cause ∧
          issue = ⟨position, cause, c.label, c.kind.issueKind⟩) ∨
            issue ∈ issuesFrom (position + 1) cs := by
        cases hread : Operation.decode c with
        | ok op =>
          rw [issuesFrom_cons_of_ok hread] at hmem
          exact Or.inr hmem
        | error cause =>
          rw [issuesFrom_cons_of_error hread] at hmem
          exact (List.mem_cons.mp hmem).imp_left fun heq => ⟨cause, rfl, heq⟩
      rcases hcases with ⟨cause, hread, rfl⟩ | hmem
      · exact ⟨0, c, cause, rfl, hread, by rw [Nat.zero_add]⟩
      · obtain ⟨i, d, cause, hd, hread, rfl⟩ := (ih (position + 1)).mp hmem
        exact ⟨i + 1, d, cause, hd, hread, by rw [hplace]⟩
    · rintro ⟨i, d, cause, hd, hread, rfl⟩
      cases i with
      | zero =>
        cases hd
        rw [issuesFrom_cons_of_error hread, Nat.zero_add]
        exact List.mem_cons_self
      | succ i =>
        have hmem := (ih (position + 1)).mpr ⟨i, d, cause, hd, hread, by rw [hplace]⟩
        cases hc : Operation.decode c with
        | ok op => rwa [issuesFrom_cons_of_ok hc]
        | error _ =>
          rw [issuesFrom_cons_of_error hc]
          exact List.mem_cons_of_mem _ hmem

/-- Later commands are reported at later positions. -/
theorem pairwise_issuesFrom (position : Nat) (cs : List Command) :
    (issuesFrom position cs).Pairwise fun i j => i.position < j.position := by
  induction cs generalizing position with
  | nil => exact .nil
  | cons c cs ih =>
    cases hread : Operation.decode c with
    | ok op =>
      rw [issuesFrom_cons_of_ok hread]
      exact ih (position + 1)
    | error cause =>
      rw [issuesFrom_cons_of_error hread, List.pairwise_cons]
      refine ⟨fun issue hmem => ?_, ih (position + 1)⟩
      obtain ⟨i, -, -, -, -, rfl⟩ := (mem_issuesFrom_iff _ _ _).mp hmem
      show position < i + (position + 1)
      omega

/-- There are as many reports as refused commands. -/
theorem length_issuesFrom (position : Nat) (cs : List Command) :
    (issuesFrom position cs).length = cs.countP Command.isRefused := by
  induction cs generalizing position with
  | nil => rfl
  | cons c cs ih =>
    cases hread : Operation.decode c with
    | ok op =>
      have hc : c.isRefused = false := Command.isRefused_eq_false_iff.mpr ⟨op, hread⟩
      rw [issuesFrom_cons_of_ok hread, ih, List.countP_cons_of_neg (by simp [hc])]
    | error cause =>
      have hc : c.isRefused = true := Command.isRefused_eq_true_iff.mpr ⟨cause, hread⟩
      rw [issuesFrom_cons_of_error hread, List.length_cons, ih, List.countP_cons_of_pos hc]

theorem problems_issuesFrom (batch : List Command) : Problems batch (issuesFrom 1 batch) :=
  ⟨pairwise_issuesFrom 1 batch, mem_issuesFrom_iff 1 batch, length_issuesFrom 1 batch⟩

/-! ## The verdict -/

/-- A batch that is no lone undo is checked command by command. -/
theorem issues_eq (hlone : isLoneUndo batch = false) : issues batch = issuesFrom 1 batch := by
  rw [issues, if_neg (by simp [hlone])]

/-- A batch with a command that is no operation is rejected. -/
theorem verdict_of_refused (hlone : isLoneUndo batch = false)
    (h : ∃ c ∈ batch, c.isRefused = true) :
    Turn.verdict batch = .rejected ((issuesFrom 1 batch).map Issue.message) := by
  obtain ⟨c, hc, hrefused⟩ := h
  obtain ⟨cause, hread⟩ := Command.isRefused_eq_true_iff.mp hrefused
  obtain ⟨i, hi⟩ := List.getElem?_of_mem hc
  have hmem := (mem_issuesFrom_iff 1 batch _).mpr ⟨i, c, cause, hi, hread, rfl⟩
  rw [Turn.verdict, if_neg (List.ne_nil_of_mem hc), issues_eq hlone]
  split
  next hnil => exact absurd hnil (List.ne_nil_of_mem hmem)
  next => rfl

/-- A batch of operations may run. -/
theorem verdict_of_read (hlone : isLoneUndo batch = false) (hne : batch ≠ [])
    (h : ∀ c ∈ batch, c.isRefused = false) : Turn.verdict batch = .ready := by
  have hnil : issuesFrom 1 batch = [] := by
    rw [List.eq_nil_iff_forall_not_mem]
    intro issue hmem
    obtain ⟨i, c, cause, hi, hread, -⟩ := (mem_issuesFrom_iff 1 batch issue).mp hmem
    obtain ⟨op, hop⟩ := Command.isRefused_eq_false_iff.mp (h c (List.mem_of_getElem? hi))
    rw [hop] at hread
    cases hread
  rw [Turn.verdict, if_neg hne, issues_eq hlone, hnil]

end

section

variable {σ : Type} (ed : Editor) (host : Host σ) {text : String} (s : σ)

/-- A turn that is rejected leaves the editor and the document as they are. -/
theorem Editor.runTurn_of_rejected {messages : List String}
    (h : Turn.verdict (Reply.parse text).commands = .rejected messages) :
    ed.runTurn host text s =
      .ok (⟨(Reply.parse text).prose, (Reply.parse text).commands, .rejected messages⟩, ed, s) := by
  rw [runTurn, Turn.preview, h]
  rfl

/-- A turn that may run executes its batch. -/
theorem Editor.runTurn_of_ready (h : Turn.verdict (Reply.parse text).commands = .ready) :
    ed.runTurn host text s =
      (ed.execute host (Reply.parse text).commands s).map fun (outcome, ed', s') =>
        (⟨(Reply.parse text).prose, (Reply.parse text).commands, .executed outcome⟩, ed', s') := by
  rw [runTurn, Turn.preview, h]
  rfl

end

/-! ## Lines with a row macro -/

/-- Executing commands that take effect wherever there is a sheet has no errors. -/
theorem RunsOnSheets.execute {cs : List Command} (h : RunsOnSheets cs) (ed : Editor) {w : Workbook}
    (hw : w.sheets ≠ []) :
    ∃ ed' w', ed.execute Workbook.host cs w = .ok ({ executed := cs.length }, ed', w') := by
  obtain ⟨inverse, w', hruns⟩ := h ed.copyLimit w hw
  exact ⟨_, w', ed.execute_of_runsThrough hruns⟩

namespace Reply

/-- A line with a name before its first bar that is the name of a row macro. -/
def IsMacroLine (line : List Char) : Prop :=
  ∃ name args, fields? (tightenBars (Text.trimChars line)) = some (name, args) ∧
    isName name = true ∧ (Kind.ofName (String.ofList name)).isMacro = true

/-- What comes of a line with a row macro: its failure, or operations that take effect one after the
other on every workbook with a sheet. -/
theorem exists_of_isMacroLine {line : List Char} (h : IsMacroLine line) :
    ∃ cs, parseLine? line = some cs ∧
      ((∃ reason, cs = [.failure reason (String.ofList (Text.trimChars line))]) ∨
        RunsOnSheets cs) := by
  obtain ⟨name, args, hfields, hname, hkind⟩ := h
  -- there are fields because there is a bar, and with a bar the line is no bare verb
  have hbar : '|' ∈ Text.trimChars line := by
    by_contra hbar
    rw [tightenBars_of_notMem hbar, fields?_of_notMem hbar] at hfields
    cases hfields
  refine ⟨_, ?_, (expansion_expand (.ofName (String.ofList name))
    (args.map fun arg => String.ofList (Text.trimChars arg))
    (String.ofList (Text.trimChars line))).failure_or_runsOnSheets hkind⟩
  rw [parseLine?, parseTrimmed?, ofBareLine?_of_bar hbar, hfields]
  simp only [if_pos hname]

end Reply

/-! ## The check of a turn -/

namespace Editor

/-- What the check of a batch before it runs is worth. -/
structure Checked {σ : Type} (ed : Editor) (host : Host σ) (text : String) (s : σ) : Prop where
  /-- If a command is no operation, the turn is rejected with one message for each such command. The
  document gets no call, and the editor stays as it is. -/
  rejected : (∃ c ∈ (Reply.parse text).commands, c.isRefused = true) →
    ∃ problems turn, Problems (Reply.parse text).commands problems ∧
      turn = ⟨(Reply.parse text).prose, (Reply.parse text).commands,
        .rejected (problems.map Issue.message)⟩ ∧
      ed.runTurn host text s = .ok (turn, ed, s) ∧
      ed.runTurn host.recorded text (s, []) = .ok (turn, ed, s, [])
  /-- If all commands are operations, the batch is executed. -/
  executed : (∀ c ∈ (Reply.parse text).commands, c.isRefused = false) →
    (Reply.parse text).commands ≠ [] →
      ed.runTurn host text s =
        (ed.execute host (Reply.parse text).commands s).map fun (outcome, ed', s') =>
          (⟨(Reply.parse text).prose, (Reply.parse text).commands, .executed outcome⟩, ed', s')
  /-- On a document that answers, this has an outcome unless a call stops everything, and none of its
  reports says that a command was not understood. -/
  reported : (∀ c ∈ (Reply.parse text).commands, c.isRefused = false) →
    (Reply.parse text).commands ≠ [] → ∀ stops P, host.Answers stops P → P s →
      (∃ outcome ed' s', ed.execute host (Reply.parse text).commands s = .ok (outcome, ed', s') ∧
        ∀ message ∈ outcome.errors, ed.Reported host (Reply.parse text).commands s message) ∨
      ∃ why, stops why ∧ ed.execute host (Reply.parse text).commands s = .error why
  /-- The commands are those that the lines stand for. -/
  contributed : (Reply.parse text).commands =
    ((Reply.lines text).filterMap Reply.parseLine?).flatten
  /-- A line with a row macro stands for its failure, or for operations that take effect one after the
  other on every workbook with a sheet. -/
  expanded : ∀ line ∈ Reply.lines text, Reply.IsMacroLine line →
    ∃ cs, Reply.parseLine? line = some cs ∧
      ((∃ reason, cs = [.failure reason (String.ofList (Text.trimChars line))]) ∨
        (∀ c ∈ cs, c.isRefused = false) ∧ RunsOnSheets cs ∧
          ∀ (ed : Editor) (w : Workbook), w.sheets ≠ [] →
            ∃ ed' w', ed.execute Workbook.host cs w = .ok ({ executed := cs.length }, ed', w'))

/-- The check before a batch runs is complete, and it is enough, for every reply that is no lone
undo. -/
theorem runTurn_checked {σ : Type} (ed : Editor) (host : Host σ) {text : String} (s : σ)
    (hlone : isLoneUndo (Reply.parse text).commands = false) : ed.Checked host text s where
  rejected hrefused := by
    have hverdict := verdict_of_refused hlone hrefused
    exact ⟨_, _, problems_issuesFrom _, rfl, ed.runTurn_of_rejected host s hverdict,
      ed.runTurn_of_rejected host.recorded (s, []) hverdict⟩
  executed hread hne := ed.runTurn_of_ready host s (verdict_of_read hlone hne hread)
  reported hread hne stops P hanswers hs := by
    rcases ed.execute_ends hanswers hs hne hlone with
      ⟨outcome, ed', s', calls, hrun, -, -, hends⟩ | ⟨why, hwhy, hrun, -⟩
    · exact Or.inl ⟨outcome, ed', s', hrun,
        hends.reported fun c hc => Command.isRefused_eq_false_iff.mp (hread c hc)⟩
    · exact Or.inr ⟨why, hwhy, hrun⟩
  contributed := Reply.commands_parse text
  expanded line _ hkind := by
    obtain ⟨cs, hcs, hfailure | hruns⟩ := Reply.exists_of_isMacroLine hkind
    · exact ⟨cs, hcs, Or.inl hfailure⟩
    · exact ⟨cs, hcs, Or.inr ⟨fun c hc => Command.isRefused_eq_false_iff.mpr (hruns.read c hc),
        hruns, fun ed w hw => hruns.execute ed hw⟩⟩

/-- A reply with a row macro, one that cannot be expanded, and an argument that does not fit. -/
def rejectedReply : String :=
  "MOVE_ROW|1|3\nMOVE_ROW|9\nSORT|A1:B2|x|true"

/-- A reply with a row macro, and a command that a workbook without such a sheet refuses. -/
def executedReply : String :=
  "MOVE_ROW|1|3\nDELETE_SHEET|Other"

/-- A reply with a command that is refused, and one with a macro line that is executed. -/
theorem runTurn_checked_twoReplies :
    (isLoneUndo (Reply.parse rejectedReply).commands = false ∧
      (∃ c ∈ (Reply.parse rejectedReply).commands, c.isRefused = true) ∧
      Checked {} Workbook.host rejectedReply .threeRows) ∧
    isLoneUndo (Reply.parse executedReply).commands = false ∧
      (∀ c ∈ (Reply.parse executedReply).commands, c.isRefused = false) ∧
      (Reply.parse executedReply).commands ≠ [] ∧
      Workbook.host.Answers (· = .disorder) (fun w => w.sheets ≠ []) ∧ Workbook.threeRows.sheets ≠ [] ∧
      (∃ line ∈ Reply.lines executedReply, Reply.IsMacroLine line) ∧
      Checked {} Workbook.host executedReply .threeRows := by
  have hrejected : isLoneUndo (Reply.parse rejectedReply).commands = false := by decide +kernel
  have hexecuted : isLoneUndo (Reply.parse executedReply).commands = false := by decide +kernel
  refine ⟨⟨hrejected, by decide +kernel, runTurn_checked {} Workbook.host _ hrejected⟩,
    hexecuted, by decide +kernel, by decide +kernel, Workbook.answers_sheets, by decide,
    ⟨"MOVE_ROW|1|3".toList, by decide +kernel, "MOVE_ROW".toList, [['1'], ['3']], ?_⟩,
    runTurn_checked {} Workbook.host _ hexecuted⟩
  exact ⟨by decide +kernel, by decide +kernel, by decide +kernel⟩

end Editor

end SheetScript
