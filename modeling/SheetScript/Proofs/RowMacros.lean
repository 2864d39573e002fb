import SheetScript.Command.RowMacro
import SheetScript.Proofs.Batches
import SheetScript.Proofs.RowOrder
import SheetScript.Proofs.Workbooks

/-!
# What row macros do to a workbook

A row macro is expanded to insertions, copies and deletions of whole rows, which are written as text
and read again when they run. Each of them takes effect, and together they do what the macro is for.

- `Command.runs_insertRow`, `Command.runs_copyRow`, `Command.runs_deleteRow`: the single commands.
- `RowMacro.moveRow?_eq_some`, `RowMacro.swapRows?_eq_some`: the commands a macro stands for.
- `Editor.execute_moveRow`: one row is taken out and put back next to another one.
- `Editor.execute_swapRows`: two rows change places.

Both need that the last row is free, because a row is inserted on the way.
-/

namespace SheetScript

open Grid

/-! ## The commands of row macros -/

namespace RowMacro

variable {r a b : Nat}

/-- A row number that is read is one of the grid. -/
theorem rowNumber?_mem {arg : String} (h : rowNumber? arg = some r) : 1 ≤ r ∧ r ≤ maxRows := by
  rw [rowNumber?, Option.filter_eq_some_iff] at h
  simpa using h.2

/-- The text of a whole row is that of a span. -/
theorem wholeRow_eq_text (hr : 1 ≤ r ∧ r ≤ maxRows) : wholeRow r = (Span.row r hr).text := rfl

theorem rows?_wholeRow (hr : 1 ≤ r ∧ r ≤ maxRows) :
    Span.rows? (wholeRow r) = some (.row r hr) := by
  rw [wholeRow_eq_text hr]
  exact Span.rows?_text rfl

theorem parse_wholeRow (hr : 1 ≤ r ∧ r ≤ maxRows) :
    Address.parse (wholeRow r) = .ok ⟨none, wholeRow r⟩ := by
  rw [wholeRow_eq_text hr]
  exact Address.parse_lines _

/-- The text of a whole row is read as the block of that row. -/
theorem parse?_wholeRow (hr : 1 ≤ r ∧ r ≤ maxRows) :
    Block.parse? (wholeRow r) = some (.row r hr) := by
  rw [wholeRow_eq_text hr]
  exact Block.parse?_rows rfl

/-- The primitives of a macro are read as what they are meant for. -/
theorem decode_insertRow (hr : 1 ≤ r ∧ r ≤ maxRows) (label : String) :
    Operation.decode (insertRow r label) = .ok (.insertLines (.row r hr)) := by
  simp only [insertRow, Operation.decode, Operation.ofVerb, Operation.rowSpan, rows?_wholeRow hr]
  rfl

theorem decode_deleteRow (hr : 1 ≤ r ∧ r ≤ maxRows) (label : String) :
    Operation.decode (deleteRow r label) = .ok (.deleteLines (.row r hr)) := by
  simp only [deleteRow, Operation.decode, Operation.ofVerb, Operation.rowSpan, rows?_wholeRow hr]
  rfl

theorem decode_copyRowTo (ha : 1 ≤ a ∧ a ≤ maxRows) (hb : 1 ≤ b ∧ b ≤ maxRows) (label : String) :
    Operation.decode (copyRowTo a b label) =
      .ok (.copy ⟨none, wholeRow a⟩ ⟨none, wholeRow b⟩) := by
  simp only [copyRowTo, Operation.decode, Operation.ofVerb, Operation.address,
    parse_wholeRow ha, parse_wholeRow hb]
  rfl

end RowMacro

/-- The inverse that is recorded for a copy onto some block, given the used cells of that block. -/
def copyInverse (limit : Option Nat) (target : Address) (cells : List PlacedCell) : List Command :=
  match limit with
  | some n => restoreBlock target n cells
  | none => []

/-- A copy pastes the source onto the first cell of the target and records what puts the target back. -/
theorem Operation.perform_copy {w : Workbook} {source target : Address} {i j : Nat} {s t : Sheet}
    {b b' : Block} (hsource : w.Names source i s b) (htarget : w.Names target j t b')
    (limit : Option Nat) :
    ((copy source target).perform Workbook.host limit).run w =
      (.ok (copyInverse limit target
        ((t.cells.within b').map fun e => ⟨target.withReference e.1.text, e.2⟩)),
        w.withSheet j (t.pasteBlock b s.cells b'.topLeft)) := by
  cases limit with
  | none =>
    simp only [perform, Workbook.host, pure_bind, run_act_bind, hsource.copy htarget]
    rfl
  | some n =>
    simp only [perform, Workbook.host, pure_bind, run_ask_bind, htarget.snapshot, run_act_bind,
      hsource.copy htarget]
    rfl

/-- The used cells of a row with their addresses. -/
def Cells.placedRow (cells : Cells) {r : Nat} (hr : 1 ≤ r ∧ r ≤ maxRows) : List PlacedCell :=
  (cells.within (.row r hr)).map fun e => ⟨⟨none, e.1.text⟩, e.2⟩

namespace Command

variable (limit : Option Nat) {w : Workbook} {s : Sheet} {r a b : Nat}

/-- A row is inserted, and its deletion is recorded. -/
theorem runs_insertRow (hs : w.activeSheet? = some s) (hr : 1 ≤ r ∧ r ≤ maxRows) (label : String) :
    (RowMacro.insertRow r label).Runs Workbook.host limit w
      [.plain .deleteRows [RowMacro.wholeRow r]] (w.withSheet w.activeIndex (s.insertRow hr)) := by
  refine ⟨_, RowMacro.decode_insertRow hr label, ?_⟩
  rw [Operation.perform, Workbook.host, run_act_bind, Workbook.insert_eq hs]
  rfl

/-- A row is deleted, and nothing is recorded. -/
theorem runs_deleteRow (hs : w.activeSheet? = some s) (hr : 1 ≤ r ∧ r ≤ maxRows) (label : String) :
    (RowMacro.deleteRow r label).Runs Workbook.host limit w []
      (w.withSheet w.activeIndex (s.deleteRow hr)) := by
  refine ⟨_, RowMacro.decode_deleteRow hr label, ?_⟩
  rw [Operation.perform, Workbook.host, run_act_bind, Workbook.delete_eq hs]
  rfl

/-- A row is copied, and what the limit allows of the old row is recorded. -/
theorem runs_copyRow (hs : w.activeSheet? = some s) (ha : 1 ≤ a ∧ a ≤ maxRows)
    (hb : 1 ≤ b ∧ b ≤ maxRows) (label : String) :
    (RowMacro.copyRowTo a b label).Runs Workbook.host limit w
      (copyInverse limit ⟨none, RowMacro.wholeRow b⟩ (s.cells.placedRow hb))
      (w.withSheet w.activeIndex (s.copyRow ha hb)) := by
  have hsource := Workbook.names_active hs (RowMacro.parse?_wholeRow ha)
  have htarget := Workbook.names_active hs (RowMacro.parse?_wholeRow hb)
  exact ⟨_, RowMacro.decode_copyRowTo ha hb label, Operation.perform_copy hsource htarget limit⟩

end Command

/-! ## What the macros stand for -/

namespace RowMacro

variable {source target a b : Nat} {after : Bool} {cs : List Command}

/-- The commands for a move, and that all their rows are on the grid. -/
theorem moveRow?_eq_some (hs : source ≤ maxRows) (ht : target ≤ maxRows)
    (h : moveRow? source target after = some cs) :
    insertionRow target after ≤ maxRows ∧
      pushedRow source (insertionRow target after) ≤ maxRows ∧ ∃ l₁ l₂ l₃, cs =
        [insertRow (insertionRow target after) l₁,
          copyRowTo (pushedRow source (insertionRow target after)) (insertionRow target after) l₂,
          deleteRow (pushedRow source (insertionRow target after)) l₃] := by
  -- the place of insertion is known first, then where the source has been pushed to
  obtain ⟨hinsert, hcs⟩ : insertionRow target after ≤ maxRows ∧
      moveInto? source (insertionRow target after) = some cs := by
    cases after with
    | true =>
      rw [moveRow?, if_pos rfl, nextRow?] at h
      split at h
      next hlt => exact ⟨hlt, h⟩
      next => cases h
    | false => exact ⟨ht, h⟩
  refine ⟨hinsert, ?_⟩
  rw [moveInto?] at hcs
  split at hcs
  next hlt =>
    cases hcs
    rw [pushedRow, if_pos hlt]
    exact ⟨hs, _, _, _, rfl⟩
  next hge =>
    rw [nextRow?] at hcs
    split at hcs
    next hroom =>
      cases hcs
      rw [pushedRow, if_neg hge]
      exact ⟨hroom, _, _, _, rfl⟩
    next => cases hcs

/-- The commands for a swap, and that the scratch row is on the grid. -/
theorem swapRows?_eq_some (h : swapRows? a b = some cs) :
    max a b + 1 ≤ maxRows ∧ ∃ l₁ l₂ l₃ l₄ l₅, cs =
      [insertRow (max a b + 1) l₁, copyRowTo a (max a b + 1) l₂, copyRowTo b a l₃,
        copyRowTo (max a b + 1) b l₄, deleteRow (max a b + 1) l₅] := by
  rw [swapRows?, Option.map_eq_some_iff] at h
  obtain ⟨scratch, hscratch, rfl⟩ := h
  rw [nextRow?] at hscratch
  split at hscratch
  next hlt =>
    cases hscratch
    exact ⟨hlt, _, _, _, _, _, rfl⟩
  next => cases hscratch

/-- A macro line that is expanded without a failure stands for the commands of its rows. -/
theorem withRows_eq {first second label tooFew : String} {rest : List String} {m n : Nat}
    {commands? : Nat → Nat → List String → Option (List Command)}
    (hm : rowNumber? first = some m) (hn : rowNumber? second = some n)
    (hok : ∀ c ∈ withRows (first :: second :: rest) label tooFew commands?, c.kind ≠ .failed) :
    ∃ cs, commands? m n rest = some cs ∧
      withRows (first :: second :: rest) label tooFew commands? = cs := by
  have hrows : withRows (first :: second :: rest) label tooFew commands? =
      (commands? m n rest).getD [.failure "Invalid row numbers" label] := by
    simp only [withRows, hm, hn]
    rfl
  rw [hrows] at hok ⊢
  cases hcs : commands? m n rest with
  | none =>
    rw [hcs] at hok
    exact absurd rfl (hok (.failure "Invalid row numbers" label) (by simp))
  | some cs => exact ⟨cs, rfl, rfl⟩

/-- A line that moves a row and is no error stands for its three primitives. -/
theorem expand_moveRow {first second label : String} {rest : List String}
    (hs : rowNumber? first = some source) (ht : rowNumber? second = some target)
    (hok : ∀ c ∈ expand (.verb .moveRow) (first :: second :: rest) label, c.kind ≠ .failed) :
    ∃ cs, moveRow? source target (goesAfter rest.head?) = some cs ∧
      expand (.verb .moveRow) (first :: second :: rest) label = cs := by
  rw [expand] at hok ⊢
  exact withRows_eq hs ht hok

/-- A line that swaps two rows and is no error stands for its five primitives. -/
theorem expand_swapRows {first second label : String} {rest : List String}
    (ha : rowNumber? first = some a) (hb : rowNumber? second = some b)
    (hok : ∀ c ∈ expand (.verb .swapRows) (first :: second :: rest) label, c.kind ≠ .failed) :
    ∃ cs, swapRows? a b = some cs ∧
      expand (.verb .swapRows) (first :: second :: rest) label = cs := by
  rw [expand] at hok ⊢
  exact withRows_eq ha hb hok

/-- The commands for a move run through. -/
theorem runsThrough_move {limit : Option Nat} {w : Workbook} {s : Sheet} {insertAt : Nat}
    (hs : w.activeSheet? = some s) (hi : 1 ≤ insertAt ∧ insertAt ≤ maxRows)
    (hp : 1 ≤ pushedRow source insertAt ∧ pushedRow source insertAt ≤ maxRows)
    (l₁ l₂ l₃ : String) :
    RunsThrough Workbook.host limit
      [insertRow insertAt l₁, copyRowTo (pushedRow source insertAt) insertAt l₂,
        deleteRow (pushedRow source insertAt) l₃] w
      (copyInverse limit ⟨none, wholeRow insertAt⟩ ((s.insertRow hi).cells.placedRow hi) ++
        [.plain .deleteRows [wholeRow insertAt]])
      (w.withSheet w.activeIndex (s.moveInto hi hp)) := by
  have hinserted := Workbook.activeSheet?_withSheet hs (s.insertRow hi)
  have hcopied := Workbook.activeSheet?_withSheet hs ((s.insertRow hi).copyRow hp hi)
  -- every command finds the sheet that the one before it left
  have hinsert := Command.runs_insertRow limit hs hi l₁
  have hcopy := Command.runs_copyRow limit hinserted hp hi l₂
  have hdelete := Command.runs_deleteRow limit hcopied hp l₃
  simp only [Workbook.activeIndex_withSheet, Workbook.withSheet_withSheet] at hcopy hdelete
  simpa [Sheet.moveInto] using RunsThrough.cons hinsert (.cons hcopy (.single hdelete))

/-- The commands for a swap run through. -/
theorem runsThrough_swap {limit : Option Nat} {w : Workbook} {s : Sheet} {scratch : Nat}
    (hs : w.activeSheet? = some s) (ha : 1 ≤ a ∧ a ≤ maxRows) (hb : 1 ≤ b ∧ b ≤ maxRows)
    (ht : 1 ≤ scratch ∧ scratch ≤ maxRows) (l₁ l₂ l₃ l₄ l₅ : String) :
    RunsThrough Workbook.host limit
      [insertRow scratch l₁, copyRowTo a scratch l₂, copyRowTo b a l₃, copyRowTo scratch b l₄,
        deleteRow scratch l₅] w
      (copyInverse limit ⟨none, wholeRow b⟩
          ((((s.insertRow ht).copyRow ha ht).copyRow hb ha).cells.placedRow hb) ++
        (copyInverse limit ⟨none, wholeRow a⟩
            (((s.insertRow ht).copyRow ha ht).cells.placedRow ha) ++
          (copyInverse limit ⟨none, wholeRow scratch⟩ ((s.insertRow ht).cells.placedRow ht) ++
            [.plain .deleteRows [wholeRow scratch]])))
      (w.withSheet w.activeIndex (s.swapBy ha hb ht)) := by
  have hactive := Workbook.activeSheet?_withSheet hs
  have hinsert := Command.runs_insertRow limit hs ht l₁
  have hsave := Command.runs_copyRow limit (hactive (s.insertRow ht)) ha ht l₂
  have hover := Command.runs_copyRow limit
    (hactive ((s.insertRow ht).copyRow ha ht)) hb ha l₃
  have hback := Command.runs_copyRow limit
    (hactive (((s.insertRow ht).copyRow ha ht).copyRow hb ha)) ht hb l₄
  have hdelete := Command.runs_deleteRow limit
    (hactive ((((s.insertRow ht).copyRow ha ht).copyRow hb ha).copyRow ht hb)) ht l₅
  simp only [Workbook.activeIndex_withSheet, Workbook.withSheet_withSheet] at hsave hover
  simp only [Workbook.activeIndex_withSheet, Workbook.withSheet_withSheet] at hback hdelete
  simpa [Sheet.swapBy] using
    RunsThrough.cons hinsert (.cons hsave (.cons hover (.cons hback (.single hdelete))))

end RowMacro

/-! ## The macros themselves -/

/-- A sheet with texts in its first column, one below the other. -/
def Sheet.ofColumn (texts : List String) : Sheet where
  name := Workbook.firstSheetName
  cells := .ofList ((texts.zipIdx 1).filterMap fun (value, row) =>
    (Position.at? row 1).map fun p => (p, { value }))

/-- A sheet with one letter in each of its first three rows. -/
def Sheet.threeRows : Sheet :=
  .ofColumn ["a", "b", "c"]

/-- A workbook with that sheet alone. -/
def Workbook.threeRows : Workbook where
  sheets := [Sheet.threeRows]

namespace Editor

variable (ed : Editor) {w : Workbook} {s : Sheet} {first second : String} {rest : List String}

/-- Moving a row takes effect in three steps and puts the rows of the active sheet into the order that
the move is meant to give. Nothing else in the workbook changes, and nothing at all if the row already
stands at its place. -/
theorem execute_moveRow {source target : Nat} (hs : w.activeSheet? = some s)
    (hlast : s.LastRowFree) (hsource : RowMacro.rowNumber? first = some source)
    (htarget : RowMacro.rowNumber? second = some target) (label : String)
    (hok : ∀ c ∈ expand (.verb .moveRow) (first :: second :: rest) label, c.kind ≠ .failed) :
    ∃ ed' cells,
      ed.execute Workbook.host (expand (.verb .moveRow) (first :: second :: rest) label) w =
        .ok ({ executed := 3 }, ed', w.withSheet w.activeIndex { s with cells }) ∧
      cells.rowList =
        (movedRows source target (RowMacro.goesAfter rest.head?)).map s.cells.getAt ∧
      (StandsThere source target (RowMacro.goesAfter rest.head?) → cells = s.cells) := by
  obtain ⟨cs, hcs, heq⟩ := RowMacro.expand_moveRow hsource htarget hok
  have hs₁ := RowMacro.rowNumber?_mem hsource
  have ht₁ := RowMacro.rowNumber?_mem htarget
  obtain ⟨hinsert, hpushed, l₁, l₂, l₃, rfl⟩ := RowMacro.moveRow?_eq_some hs₁.2 ht₁.2 hcs
  have hi : 1 ≤ insertionRow target (RowMacro.goesAfter rest.head?) ∧
      insertionRow target (RowMacro.goesAfter rest.head?) ≤ maxRows :=
    ⟨one_le_insertionRow ht₁.1, hinsert⟩
  have hp : 1 ≤ pushedRow source (insertionRow target (RowMacro.goesAfter rest.head?)) ∧
      pushedRow source (insertionRow target (RowMacro.goesAfter rest.head?)) ≤ maxRows :=
    ⟨one_le_pushedRow hs₁.1, hpushed⟩
  have hrun := ed.execute_of_runsThrough (RowMacro.runsThrough_move hs hi hp l₁ l₂ l₃)
  rw [← Sheet.eq_moveInto] at hrun
  rw [heq]
  refine ⟨_, (s.moveInto hi hp).cells, hrun, Sheet.rowList_moveInto hs₁ ht₁ hi hp hlast, ?_⟩
  intro hthere
  rw [Sheet.moveInto_eq_self hi hp hlast hthere.insertionRow]

/-- The first row is moved in front of the third one. -/
theorem execute_moveRow_threeRows :
    ∃ ed' cells,
      execute {} Workbook.host (expand (.verb .moveRow) ["1", "3", "BEFORE"] "MOVE_ROW|1|3|BEFORE")
          .threeRows =
        .ok ({ executed := 3 }, ed', Workbook.threeRows.withSheet 0 { Sheet.threeRows with cells }) ∧
      cells.rowList = (movedRows 1 3 false).map Sheet.threeRows.cells.getAt ∧
      (StandsThere 1 3 false → cells = Sheet.threeRows.cells) :=
  execute_moveRow {} rfl (by decide +kernel) (by decide) (by decide) _ (by decide +kernel)

/-- Swapping two rows takes effect in five steps. Afterwards each of the two rows of the active sheet
shows what the other one did, and every other row what it did before; nothing else in the workbook
changes. -/
theorem execute_swapRows {a b : Nat} (hs : w.activeSheet? = some s) (hlast : s.LastRowFree)
    (hfirst : RowMacro.rowNumber? first = some a) (hsecond : RowMacro.rowNumber? second = some b)
    (label : String)
    (hok : ∀ c ∈ expand (.verb .swapRows) (first :: second :: rest) label, c.kind ≠ .failed) :
    ∃ ed' cells,
      ed.execute Workbook.host (expand (.verb .swapRows) (first :: second :: rest) label) w =
        .ok ({ executed := 5 }, ed', w.withSheet w.activeIndex { s with cells }) ∧
      ∀ row col, cells.getAt row col = s.cells.getAt (Equiv.swap a b row) col := by
  obtain ⟨cs, hcs, heq⟩ := RowMacro.expand_swapRows hfirst hsecond hok
  have ha := RowMacro.rowNumber?_mem hfirst
  have hb := RowMacro.rowNumber?_mem hsecond
  obtain ⟨hscratch, l₁, l₂, l₃, l₄, l₅, rfl⟩ := RowMacro.swapRows?_eq_some hcs
  have ht : 1 ≤ max a b + 1 ∧ max a b + 1 ≤ maxRows := ⟨by omega, hscratch⟩
  have hrun := ed.execute_of_runsThrough (RowMacro.runsThrough_swap hs ha hb ht l₁ l₂ l₃ l₄ l₅)
  rw [← Sheet.eq_swapBy] at hrun
  rw [heq]
  exact ⟨_, (s.swapBy ha hb ht).cells, hrun, Sheet.getAt_swapBy ha hb ht rfl hlast⟩

/-- The first and the third row are swapped. -/
theorem execute_swapRows_threeRows :
    ∃ ed' cells,
      execute {} Workbook.host (expand (.verb .swapRows) ["3", "1"] "SWAP_ROWS|3|1") .threeRows =
        .ok ({ executed := 5 }, ed', Workbook.threeRows.withSheet 0 { Sheet.threeRows with cells }) ∧
      ∀ row col, cells.getAt row col = Sheet.threeRows.cells.getAt (Equiv.swap 3 1 row) col :=
  execute_swapRows {} rfl (by decide +kernel) (by decide) (by decide) _ (by decide +kernel)

end Editor

end SheetScript
