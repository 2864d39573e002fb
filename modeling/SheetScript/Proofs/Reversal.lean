import SheetScript.Proofs.Clean

/-!
# Commands that can be taken back

Of the commands that record an inverse, those that write one cell, insert lines or name a sheet can be
taken back exactly: on a clean workbook such a command is either refused and changes nothing, or its
inverse runs through afterwards and gives the workbook back.

- `Operation.Reversible`: the operations in question, on a given workbook.
- `LeadsBack`: a batch runs through and ends in a given workbook; `leadsBack_write`,
  `leadsBack_writeCell`: what is recorded for a write does.
- `Reverses`: what is said about one operation; there is one lemma for each kind of operation.
- `Operation.reverses`: every reversible operation.
-/

namespace SheetScript

open Grid

/-! ## The operations -/

/-- Whether an address, if it names anything, names one cell. -/
def Grid.Address.OneCell (a : Address) : Prop :=
  ∀ b, Block.parse? a.reference = some b → b.size = 1

/-- Whether an operation can be taken back exactly on a workbook: it writes one cell, it inserts lines
for which there is room, or it gives a sheet a name that is read as it is. -/
def Operation.Reversible (w : Workbook) : Operation → Prop
  | .setValue a value => a.OneCell ∧ value.toList.head? ≠ some '='
  | .setFormula a _ | .formatBold a _ | .formatColor a _ | .formatFill a _ => a.OneCell
  | .insertLines lines => ∀ s, w.activeSheet? = some s → s.HasRoom lines
  | .createSheet name | .renameSheet _ name => Operation.sheetName name = .ok name
  | _ => False

instance (a : Address) : Decidable a.OneCell :=
  inferInstanceAs (Decidable (∀ b ∈ Block.parse? a.reference, b.size = 1))

instance (w : Workbook) : DecidablePred (Operation.Reversible w)
  | .setValue a value => inferInstanceAs (Decidable (a.OneCell ∧ value.toList.head? ≠ some '='))
  | .setFormula a _ | .formatBold a _ | .formatColor a _ | .formatFill a _ =>
    inferInstanceAs (Decidable a.OneCell)
  | .insertLines lines => inferInstanceAs (Decidable (∀ s ∈ w.activeSheet?, s.HasRoom lines))
  | .createSheet name | .renameSheet _ name =>
    inferInstanceAs (Decidable (Operation.sheetName name = .ok name))
  | .clear _ | .select _ | .deleteLines _ | .copy _ _ | .sort _ _ _ | .deleteSheet _
  | .activateSheet _ | .createChart _ _ _ | .deleteChart _ | .deleteAllCharts =>
    inferInstanceAs (Decidable False)

/-- The batch `cs` runs through on `w` and ends in `w'`. -/
def LeadsBack (limit : Option Nat) (cs : List Command) (w w' : Workbook) : Prop :=
  ∃ inverse, RunsThrough Workbook.host limit cs w inverse w'

namespace LeadsBack

variable {limit : Option Nat} {cs ds : List Command} {w w' w'' : Workbook}

theorem nil (w : Workbook) : LeadsBack limit [] w w :=
  ⟨[], .nil w⟩

/-- Commands that lead back part of the way, and others that lead on from there. -/
theorem append (h : LeadsBack limit cs w w') (h' : LeadsBack limit ds w' w'') :
    LeadsBack limit (cs ++ ds) w w'' := by
  obtain ⟨inverse, h⟩ := h
  obtain ⟨inverse', h'⟩ := h'
  exact ⟨_, h.append h'⟩

theorem single {c : Command} {op : Operation} (hop : Operation.decode c = .ok op)
    (hrun : ∃ inverse, (op.perform Workbook.host limit).run w = (.ok inverse, w')) :
    LeadsBack limit [c] w w' := by
  obtain ⟨inverse, hrun⟩ := hrun
  exact ⟨inverse, .single ⟨op, hop, hrun⟩⟩

end LeadsBack

/-- An operation is refused without a trace, or it is carried out, keeps the workbook clean, and its
inverse leads back. -/
def Reverses (limit : Option Nat) (w : Workbook) (op : Operation) : Prop :=
  (∃ e : HostError, e.isSession = false ∧
    (op.perform Workbook.host limit).run w = (.error (.host (.error e)), w)) ∨
  ∃ inverse w', (op.perform Workbook.host limit).run w = (.ok inverse, w') ∧ w'.Clean ∧
    LeadsBack limit inverse w' w

/-! ## Writing cells -/

section

variable {limit : Option Nat} {w : Workbook} {op : Operation} {write : CellWrite} {i : Nat}
  {s : Sheet} {p : Position} {c : Cell}

/-- What is recorded for a write to a block is a write to that block. -/
theorem leadsBack_write (hop : op.cellWrite? = some write) (ha : write.address.WellFormed)
    (old : Cell) {b : Block} (h : w.Names write.address i s b) (hsize : b.size ≤ Sheet.maxWrite) :
    LeadsBack limit [write.back old] w
      (w.withSheet i { s with cells := s.cells.update b.positions (write.restore old) }) := by
  obtain ⟨op', write', hdecode, hop', haddress, hchange⟩ := Operation.decode_back hop ha old
  rw [← haddress] at h
  rw [← hchange]
  exact .single hdecode ⟨_, perform_write hop' h hsize limit⟩

/-- After a write to one cell, what was recorded for it writes to that cell again. -/
theorem leadsBack_writeCell (hop : op.cellWrite? = some write) (ha : write.address.WellFormed)
    (h : w.NamesCell write.address i s p) (old new : Cell) :
    LeadsBack limit [write.back old] (w.withSheet i (s.setCell p new))
      (w.withSheet i (s.setCell p (write.restore old new))) := by
  obtain ⟨op', write', hdecode, hop', haddress, hchange⟩ := Operation.decode_back hop ha old
  have hnamed := h.withSheet (Sheet.name_setCell s p new)
  rw [← haddress] at hnamed
  have hrun := perform_writeCell hop' hnamed limit
  rw [Workbook.withSheet_withSheet, Sheet.setCell_setCell, Sheet.get_setCell_self, hchange] at hrun
  exact .single hdecode ⟨_, hrun⟩

/-- A clean cell is made of the new one again. -/
theorem restore_change (hop : op.cellWrite? = some write) (hc : c.Clean) :
    write.restore c (write.change c) = c := by
  cases op with
  | setValue a v =>
    cases hop
    exact hc.normal.restored _
  | setFormula a f =>
    cases hop
    obtain ⟨hbold, hfill⟩ := Cell.withEntry_formats f c
    exact hc.withEntry_shown hbold hfill
  | formatBold _ _ | formatColor _ _ | formatFill _ _ =>
    cases hop
    rfl
  | _ => cases hop

/-- A write that can be taken back leaves a clean cell. -/
theorem clean_change (hop : op.cellWrite? = some write) (hrev : op.Reversible w) (hc : c.Clean) :
    (write.change c).Clean := by
  cases op with
  | setValue a v =>
    cases hop
    exact .withValue hrev.2 c
  | setFormula a f =>
    cases hop
    exact .withEntry f c
  | formatBold a bold =>
    cases hop
    exact hc.withBold bold
  | formatColor a color | formatFill a color =>
    cases hop
    exact hc.withFill color
  | _ => cases hop

theorem oneCell_of_reversible (hop : op.cellWrite? = some write) (hrev : op.Reversible w) :
    write.address.OneCell := by
  cases op with
  | setValue _ _ =>
    cases hop
    exact hrev.1
  | setFormula _ _ | formatBold _ _ | formatColor _ _ | formatFill _ _ =>
    cases hop
    exact hrev
  | _ => cases hop

/-- A write to one cell can be taken back. -/
theorem reverses_write (hw : w.Clean) (hop : op.cellWrite? = some write) (hrev : op.Reversible w)
    (ha : write.address.WellFormed) : Reverses limit w op := by
  cases hresolve : w.resolve write.address with
  | error e =>
    have htarget := Operation.target?_of_cellWrite? hop
    exact Or.inl ⟨e, Workbook.isSession_of_resolve hresolve, perform_of_resolve_error hresolve htarget⟩
  | ok found =>
    obtain ⟨i, b⟩ := found
    obtain ⟨s, hnames⟩ := Workbook.names_of_resolve hw.sheets_ne_nil hresolve
    have hcells := hw.cells_clean s (List.mem_of_getElem? hnames.sheet_eq)
    have hcell := hnames.namesCell (oneCell_of_reversible hop hrev b hnames.parse?_eq)
    refine Or.inr ⟨_, _, perform_writeCell hop hcell limit, ?_, ?_⟩
    · refine hw.withCells hnames.sheet_eq rfl fun q => ?_
      rw [Sheet.get_setCell]
      split
      · exact clean_change hop hrev (hcells b.topLeft)
      · exact hcells q
    · have hback : LeadsBack limit _ _ _ := leadsBack_writeCell hop ha hcell
        (s.cells.get b.topLeft) (write.change (s.cells.get b.topLeft))
      rw [restore_change hop (hcells b.topLeft), Sheet.setCell_self,
        Workbook.withSheet_self hnames.sheet_eq] at hback
      exact hback

end

/-! ## Inserting lines -/

section

variable {limit : Option Nat} {w : Workbook}

/-- What is recorded for an insertion is read as the deletion of its lines. -/
theorem decode_deleteLines (lines : Span) :
    Operation.decode (.plain (match lines.axis with
      | .rows => .deleteRows
      | .columns => .deleteColumns) [lines.text]) = .ok (.deleteLines lines) := by
  cases haxis : lines.axis with
  | rows =>
    simp only [Command.plain, Command.ofKind, Operation.decode, Operation.ofVerb,
      Operation.rowSpan, Span.rows?_text haxis]
    rfl
  | columns =>
    simp only [Command.plain, Command.ofKind, Operation.decode, Operation.ofVerb,
      Operation.columnSpan, Span.columns?_text haxis]
    rfl

/-- Cells that move stay clean. -/
theorem clean_insertLines {s : Sheet} (lines : Span) (h : ∀ p, (s.cells.get p).Clean)
    (q : Position) : ((s.insertLines lines).cells.get q).Clean := by
  rw [Sheet.get_insertLines]
  cases Sheet.deletedAt lines q with
  | none => exact Cell.Clean.blank
  | some p => exact h p

/-- An insertion that pushes nothing off the grid can be taken back. -/
theorem reverses_insertLines (hw : w.Clean) {lines : Span}
    (hroom : ∀ s, w.activeSheet? = some s → s.HasRoom lines) :
    Reverses limit w (.insertLines lines) := by
  obtain ⟨s, hs⟩ := Workbook.exists_activeSheet? hw.sheets_ne_nil
  have hinserted := Workbook.activeSheet?_withSheet hs (s.insertLines lines)
  have hdeleted := Workbook.delete_eq hinserted lines
  rw [Sheet.deleteLines_insertLines (hroom s hs), Workbook.activeIndex_withSheet,
    Workbook.withSheet_withSheet, Workbook.withSheet_self hs] at hdeleted
  refine Or.inr ⟨_, w.withSheet w.activeIndex (s.insertLines lines), ?_, ?_,
    .single (decode_deleteLines lines) ⟨[], ?_⟩⟩
  · simp only [Operation.perform, Workbook.host, run_act_bind, Workbook.insert_eq hs]
    rfl
  · exact hw.withCells hs rfl
      (clean_insertLines lines (hw.cells_clean s (List.mem_of_getElem? hs)))
  · simp only [Operation.perform, Workbook.host, run_act_bind, hdeleted]
    rfl

/-! ## Naming sheets -/

/-- A name that is read as it is makes a command that is read as it is meant. -/
theorem decode_deleteSheet {name : String} (h : Operation.sheetName name = .ok name) :
    Operation.decode (.plain .deleteSheet [name]) = .ok (.deleteSheet name) := by
  simp only [Command.plain, Command.ofKind, Operation.decode, Operation.ofVerb, h]
  rfl

theorem decode_renameSheet {old new : String} (hold : Operation.sheetName old = .ok old)
    (hnew : Operation.sheetName new = .ok new) :
    Operation.decode (.plain .renameSheet [old, new]) = .ok (.renameSheet (some old) new) := by
  simp only [Command.plain, Command.ofKind, Operation.decode, Operation.ofVerb, hold, hnew]
  rfl

/-- A sheet that was added last is deleted without a trace. -/
theorem deleteSheet_addSheet (hw : w.Clean) {name : String}
    (hadded : Workbook.Clean { w with sheets := w.sheets ++ [{ name }] }) :
    Workbook.deleteSheet { w with sheets := w.sheets ++ [{ name }] } name = .ok w := by
  have hlt := hw.active_lt
  have hrequire : Workbook.requireSheet { w with sheets := w.sheets ++ [{ name }] } name =
      .ok w.sheets.length :=
    hadded.requireSheet_name (s := { name }) (by simp)
  have herase : (w.sheets ++ [({ name } : Sheet)]).eraseIdx w.sheets.length = w.sheets := by
    simp [List.eraseIdx_append_of_length_le]
  rw [Workbook.deleteSheet, hrequire]
  show (if (w.sheets ++ [({ name } : Sheet)]).length = 1 then _ else _) = _
  -- it stands behind the active sheet
  rw [if_neg (by rw [List.length_append, List.length_singleton]; omega), hadded.activeIndex_eq,
    herase, if_neg (show ¬w.sheets.length < w.active by omega), List.length_append,
    List.length_singleton, show min w.active (w.sheets.length + 1 - 2) = w.active by omega]
  rfl

/-- A new sheet comes last, so its deletion leaves the sheets as they were. -/
theorem reverses_createSheet (hw : w.Clean) {name : String}
    (hname : Operation.sheetName name = .ok name) : Reverses limit w (.createSheet name) := by
  cases hindex : w.sheetIndex? name with
  | some i =>
    have hadd : w.addSheet name = .error (.error (.sheetExists name)) := by
      rw [Workbook.addSheet, hindex]
      rfl
    refine Or.inr ⟨[], w, ?_, hw, .nil w⟩
    simp only [Operation.perform, Operation.performCreateSheet, Workbook.host, run_step_tryCatch,
      run_act_bind, hadd]
    rfl
  | none =>
    have hadd : w.addSheet name = .ok { w with sheets := w.sheets ++ [{ name }] } := by
      rw [Workbook.addSheet, hindex]
      rfl
    have hadded := hw.append hindex hname
    refine Or.inr ⟨[.plain .deleteSheet [name]], _, ?_, hadded,
      .single (decode_deleteSheet hname) ⟨[], ?_⟩⟩
    · simp only [Operation.perform, Operation.performCreateSheet, Workbook.host,
        run_step_tryCatch, run_act_bind, hadd]
      rfl
    · simp only [Operation.perform, Workbook.host, run_act_bind,
        deleteSheet_addSheet hw hadded]
      rfl

/-- The sheet that a command names by its old name or by being active, if there is one. -/
theorem sheetName_eq (hw : w.Clean) (old : Option String) :
    (∃ e : HostError, e.isSession = false ∧ w.sheetName old = .error (.error e)) ∨
      ∃ (i : Nat) (s : Sheet), w.sheets[i]? = some s ∧ w.sheetName old = .ok s.name := by
  have hfound : ∀ i s, w.sheets[i]? = some s →
      (do return (← w.sheetAt i).name : Except Failure String) = .ok s.name := by
    intro i s hs
    rw [Workbook.sheetAt_eq_ok hs]
    rfl
  cases old with
  | none =>
    obtain ⟨s, hs⟩ := Workbook.exists_activeSheet? hw.sheets_ne_nil
    exact Or.inr ⟨_, s, hs, hfound _ s hs⟩
  | some name =>
    cases hindex : w.sheetIndex? name with
    | none =>
      refine Or.inl ⟨.sheetNotFound name, rfl, ?_⟩
      rw [Workbook.sheetName, Workbook.requireSheet, hindex]
      rfl
    | some i =>
      obtain ⟨s, hs, -⟩ := hw.sheetIndex?_eq_some_iff.mp hindex
      refine Or.inr ⟨i, s, hs, ?_⟩
      rw [Workbook.sheetName, Workbook.requireSheet, hindex]
      exact hfound i s hs

/-- A sheet can be renamed unless another one has the new name; it may get its own name in other letters. -/
theorem renameSheet_eq (hw : w.NamesDistinct) {i : Nat} {s : Sheet} (hs : w.sheets[i]? = some s)
    (new : String) :
    w.renameSheet s.name new =
      if (w.sheetIndex? new).any (· != i) then .error (.error (.sheetExists new))
      else .ok (w.withSheet i { s with name := new }) := by
  rw [Workbook.renameSheet, hw.requireSheet_name hs]
  show (if _ then _ else do return w.withSheet i { ← w.sheetAt i with name := new }) = _
  rw [Workbook.sheetAt_eq_ok hs]
  rfl

/-- A sheet that was renamed gets its old name back. -/
theorem renameSheet_withSheet (hw : w.Clean) {i : Nat} {s : Sheet} (hs : w.sheets[i]? = some s)
    {new : String} (hrenamed : (w.withSheet i { s with name := new }).Clean) :
    (w.withSheet i { s with name := new }).renameSheet new s.name = .ok w := by
  have hnamed := Workbook.getElem?_withSheet_self hs { s with name := new }
  have hfree : ∀ j u, (w.withSheet i { s with name := new }).sheets[j]? = some u →
      Text.sameIgnoringCase u.name s.name = true → j = i := by
    intro j u hu hsame
    -- the other sheets have kept their names, and none of them was the old one
    by_contra hne
    rw [Workbook.withSheet, List.getElem?_set_ne (Ne.symm hne)] at hu
    exact hne (hw.eq_of_sameIgnoringCase hu hs hsame)
  have hback := renameSheet_eq hrenamed.names_distinct hnamed s.name
  rw [hrenamed.names_distinct.any_sheetIndex?_eq_false_iff.mpr hfree, Workbook.withSheet_withSheet,
    Workbook.withSheet_self hs] at hback
  exact hback

/-- A sheet that was renamed gets back the name that it had, in the letters it had. -/
theorem reverses_renameSheet (hw : w.Clean) (old : Option String) {new : String}
    (hnew : Operation.sheetName new = .ok new) : Reverses limit w (.renameSheet old new) := by
  rcases sheetName_eq hw old with ⟨e, he, hname⟩ | ⟨i, s, hs, hname⟩
  · refine Or.inl ⟨e, he, ?_⟩
    simp only [Operation.perform, Workbook.host, run_ask_bind, hname]
  have hrename := renameSheet_eq hw.names_distinct hs new
  cases hany : (w.sheetIndex? new).any (· != i) with
  | true =>
    rw [hany] at hrename
    refine Or.inl ⟨.sheetExists new, rfl, ?_⟩
    simp only [Operation.perform, Workbook.host, run_ask_bind, hname, run_act_bind, hrename]
    rfl
  | false =>
    rw [hany] at hrename
    have hmem := List.mem_of_getElem? hs
    have hrenamed : (w.withSheet i { s with name := new }).Clean :=
      hw.withSheet hnew (hw.names_distinct.any_sheetIndex?_eq_false_iff.mp hany)
        (hw.cells_clean s hmem)
    have hask : (w.withSheet i { s with name := new }).sheetName (some new) = .ok new := by
      have hnamed := Workbook.getElem?_withSheet_self hs { s with name := new }
      rw [Workbook.sheetName, hrenamed.requireSheet_name hnamed]
      show (do return (← (w.withSheet i { s with name := new }).sheetAt i).name) = _
      rw [Workbook.sheetAt_eq_ok hnamed]
      rfl
    refine Or.inr ⟨_, _, ?_, hrenamed,
      .single (decode_renameSheet hnew (hw.names_stable s hmem))
        ⟨[.plain .renameSheet [s.name, new]], ?_⟩⟩
    · simp only [Operation.perform, Workbook.host, run_ask_bind, hname, run_act_bind, hrename]
      rfl
    · simp only [Operation.perform, Workbook.host, run_ask_bind, hask, run_act_bind,
        renameSheet_withSheet hw hs hrenamed]
      rfl

/-! ## Every operation -/

/-- A reversible operation that was read from a command reverses on a clean workbook. -/
theorem Operation.reverses {c : Command} {op : Operation} (hw : w.Clean)
    (hdecode : Operation.decode c = .ok op) (hop : op.Reversible w) : Reverses limit w op := by
  have hwell : ∀ {a : Address}, op.target? = some a → a.WellFormed :=
    fun ha => wellFormed_of_decode hdecode ha
  cases op with
  | setValue _ _ | setFormula _ _ | formatBold _ _ | formatColor _ _ | formatFill _ _ =>
    exact reverses_write hw rfl hop (hwell rfl)
  | insertLines lines => exact reverses_insertLines hw hop
  | createSheet name => exact reverses_createSheet hw hop
  | renameSheet old new => exact reverses_renameSheet hw old hop
  | _ => exact hop.elim

end

end SheetScript
