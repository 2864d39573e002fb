import Mathlib.Data.List.Find
import SheetScript.Proofs.Parts
import SheetScript.Proofs.Refusals
import SheetScript.Proofs.Undo

/-!
# Where an undo lands

The commands that undo a write carry the address that the write was given. An address without a sheet
name means the sheet that is active when it is read, and activating a sheet records nothing to undo. So
after a batch that writes to cells and activates sheets, an undo puts the old parts of cells back, but
some of them on another sheet than they came from.

- `Edit`: a write, with the place it named and the cell it saw there; `edits`: those of a batch.
- `Edit.landing`: the sheet that the edit is put back on; `Edit.Strays`: that is another one.
- `LocalRun`: a run of such commands, by its edits; `localRun_trace`.
- `LocalRun.firstSeen_home`, `LocalRun.leadsBack`: what the edits saw, and where their inverse leads.
- `Editor.sheets_undo_iff`: exactly when the undo restores all sheets.
-/

namespace SheetScript

open Grid

variable {limit : Option Nat} {u v w w' : Workbook} {a : Address} {i : Nat} {s : Sheet}
  {p : Position} {part : Cell.Part}

/-! ## Commands that write one part of one cell -/

/-- The address and the part that an operation writes, if it writes one part of cells. -/
def Operation.written? : Operation → Option (Address × Cell.Part)
  | .setValue a _ => some (a, .contents)
  | .formatBold a _ => some (a, .bold)
  | .formatColor a _ | .formatFill a _ => some (a, .fill)
  | _ => none

/-- Whether an operation writes one part of one cell, or makes a sheet active. -/
def Operation.IsLocal : Operation → Prop
  | .setValue a _ | .formatBold a _ | .formatColor a _ | .formatFill a _ => a.OneCell
  | .activateSheet _ => True
  | _ => False

/-- Whether a command does so, if it is understood at all. -/
def Command.IsLocal (c : Command) : Prop :=
  ∀ op, Operation.decode c = .ok op → op.IsLocal

/-- A sort moves whole rows. -/
theorem Command.IsLocal.not_isSort {c : Command} (hc : c.IsLocal) : ¬c.IsSort := by
  rintro ⟨op, hdecode, hsort⟩
  have hlocal := hc op hdecode
  cases op with
  | sort _ _ _ => exact hlocal
  | _ => cases hsort

instance : DecidablePred Operation.IsLocal
  | .setValue a _ | .formatBold a _ | .formatColor a _ | .formatFill a _ =>
    inferInstanceAs (Decidable a.OneCell)
  | .activateSheet _ => inferInstanceAs (Decidable True)
  | .setFormula _ _ | .clear _ | .select _ | .insertLines _ | .deleteLines _ | .copy _ _
  | .sort _ _ _ | .createSheet _ | .deleteSheet _ | .renameSheet _ _ | .createChart _ _ _
  | .deleteChart _ | .deleteAllCharts => inferInstanceAs (Decidable False)

instance : DecidablePred Command.IsLocal := fun c =>
  match h : Operation.decode c with
  | .ok op => decidable_of_iff op.IsLocal (by simp [Command.IsLocal, h])
  | .error _ => .isTrue (by simp [Command.IsLocal, h])

/-- A command puts one part of the cell that an address names back to what it was in `old`, on whatever
sheet that is. -/
def PutsBack (limit : Option Nat) (back : Command) (a : Address) (part : Cell.Part) (old : Cell) :
    Prop :=
  ∀ (v : Workbook) (j : Nat) (t : Sheet) (q : Position), v.NamesCell a j t q →
    ∃ inverse, back.Runs Workbook.host limit v inverse (v.putPart j q part old)

theorem Workbook.NamesCell.sheet_eq (h : w.NamesCell a i s p) : w.sheets[i]? = some s := by
  obtain ⟨b, hb, -⟩ := h.names
  exact hb.sheet_eq

/-- An operation that writes one part of cells gives each of them that part of a normal cell. What it
records gives a cell that part of the old one. -/
theorem Operation.exists_cellWrite {op : Operation} (hop : op.written? = some (a, part)) :
    ∃ write source, op.cellWrite? = some write ∧ write.address = a ∧ Cell.Normal source ∧
      (∀ c, write.change c = c.withPart part source) ∧
      ∀ old, old.Normal → ∀ c, write.restore old c = c.withPart part old := by
  have hconstant : ∀ c : Cell, c.formula = none → c.Normal := by
    intro c hc f hf
    rw [hc] at hf
    cases hf
  cases op with
  | setValue a v =>
    cases hop
    exact ⟨_, { value := v }, rfl, rfl, hconstant _ rfl, fun _ => rfl, fun _ hold => hold.restored⟩
  | formatBold a bold =>
    cases hop
    exact ⟨_, { bold }, rfl, rfl, hconstant _ rfl, fun _ => rfl, fun _ _ _ => rfl⟩
  | formatColor a color | formatFill a color =>
    cases hop
    exact ⟨_, { fill := color }, rfl, rfl, hconstant _ rfl, fun _ => rfl, fun _ _ _ => rfl⟩
  | _ => cases hop

/-- A write of one part of a cell, and the command that it records. -/
theorem perform_written (limit : Option Nat) {op : Operation} (hop : op.written? = some (a, part))
    (ha : a.WellFormed) (h : w.NamesCell a i s p) (hnormal : (s.cells.get p).Normal) :
    ∃ source back, Cell.Normal source ∧
      (op.perform Workbook.host limit).run w = (.ok [back], w.putPart i p part source) ∧
      PutsBack limit back a part (s.cells.get p) := by
  obtain ⟨write, source, hwrite, rfl, hsource, hchange, hrestore⟩ := Operation.exists_cellWrite hop
  refine ⟨source, write.back (s.cells.get p), hsource, ?_, ?_⟩
  · rw [perform_writeCell hwrite h, hchange, Workbook.putPart_eq h.sheet_eq]
  · intro v j t q h'
    obtain ⟨op', write', hdecode, hop', haddress, hback⟩ :=
      Operation.decode_back hwrite ha (s.cells.get p)
    rw [← haddress] at h'
    have hrun := perform_writeCell hop' h' limit
    rw [hback, hrestore _ hnormal, ← Workbook.putPart_eq h'.sheet_eq] at hrun
    exact ⟨_, op', hdecode, hrun⟩

/-- What is written is written where the operation aims. -/
theorem Operation.target?_of_written? {op : Operation} (h : op.written? = some (a, part)) :
    op.target? = some a := by
  cases op with
  | setValue _ _ | formatBold _ _ | formatColor _ _ | formatFill _ _ =>
    cases h
    rfl
  | _ => cases h

theorem Operation.IsLocal.oneCell {op : Operation} (hlocal : op.IsLocal)
    (h : op.written? = some (a, part)) : a.OneCell := by
  cases op with
  | setValue _ _ | formatBold _ _ | formatColor _ _ | formatFill _ _ =>
    cases h
    exact hlocal
  | _ => cases h

/-- A local operation that writes nothing makes a sheet active. -/
theorem Operation.IsLocal.eq_activateSheet {op : Operation} (hlocal : op.IsLocal)
    (h : op.written? = none) : ∃ name, op = .activateSheet name := by
  cases op with
  | activateSheet name => exact ⟨name, rfl⟩
  | setValue _ _ | formatBold _ _ | formatColor _ _ | formatFill _ _ => cases h
  | _ => exact hlocal.elim

/-- Making a sheet active changes no sheet and records nothing. -/
theorem perform_activateSheet (limit : Option Nat) (w : Workbook) (name : String) :
    (∃ e : HostError, e.isSession = false ∧
      ((Operation.activateSheet name).perform Workbook.host limit).run w =
        (.error (.host (.error e)), w)) ∨
    ∃ active, ((Operation.activateSheet name).perform Workbook.host limit).run w =
      (.ok [], { w with active }) := by
  rw [Operation.perform]
  show (∃ e : HostError, e.isSession = false ∧
    (call (Workbook.act (·.activateSheet name)) >>= _).run w = _) ∨
    ∃ active, (call (Workbook.act (·.activateSheet name)) >>= _).run w = _
  rw [run_act_bind, Workbook.activateSheet, Workbook.requireSheet]
  cases w.sheetIndex? name with
  | none => exact Or.inl ⟨.sheetNotFound name, rfl, rfl⟩
  | some i => exact Or.inr ⟨i, rfl⟩

/-! ## Edits -/

/-- A write of one part of one cell: the address it was given, the place that the address named, and
the cell that was there. -/
structure Edit where
  address : Address
  home : Nat
  position : Position
  part : Cell.Part
  old : Cell
deriving DecidableEq, Repr

/-- The edit that an operation makes. -/
def Operation.edit? (w : Workbook) (op : Operation) : Option Edit := do
  let (a, part) ← op.written?
  let (i, b) ← (w.resolve a).toOption
  let s ← w.sheets[i]?
  return ⟨a, i, b.topLeft, part, s.cells.get b.topLeft⟩

/-- The edit that a command makes. -/
def Command.edit? (w : Workbook) (c : Command) : Option Edit :=
  (Operation.decode c).toOption.bind (Operation.edit? w)

/-- The edits that a batch makes, in order. -/
def edits (limit : Option Nat) : List Command → Workbook → List Edit
  | [], _ => []
  | c :: cs, w => (c.edit? w).toList ++ edits limit cs (attempt Workbook.host limit c w).2

namespace Edit

/-- The index of the sheet that an edit is put back on when the sheet with index `active` is active. -/
def landing (active : Nat) (e : Edit) : Nat :=
  if e.address.sheet = none then active else e.home

/-- Whether an edit is put back on another sheet than it was made on. -/
def Strays (active : Nat) (e : Edit) : Prop :=
  e.landing active ≠ e.home

/-- Whether an edit is about a place, its sheet being found in some way. -/
def isAt (sheetOf : Edit → Nat) (i : Nat) (p : Position) (part : Cell.Part) (e : Edit) : Bool :=
  sheetOf e = i ∧ e.position = p ∧ e.part = part

/-- An edit was made on `w` and led to `w'`, and a command puts it back. -/
structure Made (limit : Option Nat) (e : Edit) (back : Command) (w w' : Workbook) : Prop where
  home_lt : e.home < w.sheets.length
  named : w.indexOf? e.address = some e.home
  saw : e.old.only e.part = w.partAt e.home e.position e.part
  wrote : ∃ source : Cell, source.Normal ∧ w' = w.putPart e.home e.position e.part source
  putsBack : ∀ v j, v.sheets ≠ [] → v.indexOf? e.address = some j →
    ∃ inverse, back.Runs Workbook.host limit v inverse (v.putPart j e.position e.part e.old)

end Edit

/-- A write at an address that names a cell. -/
theorem attempt_written {c : Command} {op : Operation} {b : Block} (limit : Option Nat)
    (hdecode : Operation.decode c = .ok op) (hop : op.written? = some (a, part)) (hone : a.OneCell)
    (hw : w.sheets ≠ []) (h : w.Names a i s b) (hnormal : (s.cells.get b.topLeft).Normal) :
    ∃ back w', attempt Workbook.host limit c w = (.done [back], w') ∧
      Edit.Made limit ⟨a, i, b.topLeft, part, s.cells.get b.topLeft⟩ back w w' := by
  have hwellFormed := Operation.wellFormed_of_decode hdecode (Operation.target?_of_written? hop)
  have hcell := h.namesCell (hone b h.parse?_eq)
  obtain ⟨source, back, hsource, hrun, hback⟩ :=
    perform_written limit hop hwellFormed hcell hnormal
  refine ⟨back, _, attempt_of_done hdecode hrun, Workbook.indexOf?_lt hw h.indexOf?_eq,
    h.indexOf?_eq, (Workbook.partAt_eq h.sheet_eq).symm, ⟨source, hsource, rfl⟩, ?_⟩
  -- on another workbook, the address names a cell of the sheet that it is about there
  intro v j hv hj
  have ht := List.getElem?_eq_getElem (Workbook.indexOf?_lt hv hj)
  exact hback v j _ _ ⟨b, ⟨hj, ht, h.parse?_eq⟩, hone b h.parse?_eq, rfl⟩

/-- A local command makes no edit and records nothing, or it makes one edit and records the command
that puts it back. -/
theorem attempt_local {c : Command} (limit : Option Nat) (hc : c.IsLocal) (hw : w.sheets ≠ [])
    (hnormal : ∀ s ∈ w.sheets, s.cells.All Cell.Normal) :
    (c.edit? w = none ∧ ∃ a w', attempt Workbook.host limit c w = (a, w') ∧ a.ends = false ∧
      a.inverse = [] ∧ w'.sheets = w.sheets) ∨
    ∃ e back w', c.edit? w = some e ∧ attempt Workbook.host limit c w = (.done [back], w') ∧
      e.Made limit back w w' := by
  rw [Command.edit?]
  cases hdecode : Operation.decode c with
  | error cause => exact Or.inl ⟨rfl, _, w, attempt_of_unread hdecode, rfl, rfl, rfl⟩
  | ok op =>
    have hlocal := hc op hdecode
    show (op.edit? w = none ∧ _) ∨ ∃ e back w', op.edit? w = some e ∧ _
    rw [Operation.edit?]
    cases hop : op.written? with
    | none =>
      obtain ⟨name, rfl⟩ := hlocal.eq_activateSheet hop
      refine Or.inl ⟨rfl, ?_⟩
      rcases perform_activateSheet limit w name with ⟨e, he, hrun⟩ | ⟨active, hrun⟩
      · exact ⟨_, w, attempt_of_refused hdecode hrun he, rfl, rfl, rfl⟩
      · exact ⟨.done [], _, attempt_of_done hdecode hrun, rfl, rfl, rfl⟩
    | some written =>
      obtain ⟨a, part⟩ := written
      cases hresolve : w.resolve a with
      | error e =>
        refine Or.inl ⟨by simp [hresolve, Except.toOption], .refused (commandReport c e.message), w,
          ?_, rfl, rfl, rfl⟩
        exact attempt_of_refused hdecode
          (perform_of_resolve_error hresolve (Operation.target?_of_written? hop))
          (Workbook.isSession_of_resolve hresolve)
      | ok found =>
        obtain ⟨i, b⟩ := found
        obtain ⟨s, hnames⟩ := Workbook.names_of_resolve hw hresolve
        obtain ⟨back, w', hstep, hmade⟩ := attempt_written limit hdecode hop (hlocal.oneCell hop) hw
          hnames (hnormal s (List.mem_of_getElem? hnames.sheet_eq) b.topLeft)
        refine Or.inr ⟨_, back, w', ?_, hstep, hmade⟩
        simp [hresolve, Except.toOption, hnames.sheet_eq]

/-! ## Runs of local commands -/

/-- A run of local commands from one workbook to another, with its edits and the commands that are
recorded for them, the last one first. -/
inductive LocalRun (limit : Option Nat) : Workbook → List Edit → List Command → Workbook → Prop
  | nil (w : Workbook) : LocalRun limit w [] [] w
  /-- A command that is refused or makes a sheet active. -/
  | skip {u v w : Workbook} {es : List Edit} {inverse : List Command} (hsheets : v.sheets = u.sheets)
      (rest : LocalRun limit v es inverse w) : LocalRun limit u es inverse w
  | edit {u v w : Workbook} {e : Edit} {es : List Edit} {back : Command} {inverse : List Command}
      (hmade : e.Made limit back u v) (rest : LocalRun limit v es inverse w) :
      LocalRun limit u (e :: es) (inverse ++ [back]) w

/-- A batch of local commands is such a run. -/
theorem localRun_trace (limit : Option Nat) {batch : List Command} (hbatch : ∀ c ∈ batch, c.IsLocal)
    (hw : w.sheets ≠ []) (hnormal : ∀ s ∈ w.sheets, s.cells.All Cell.Normal) :
    LocalRun limit w (edits limit batch w)
      (inverses (trace Workbook.host limit batch w).attempts)
      (trace Workbook.host limit batch w).state := by
  induction batch generalizing w with
  | nil => exact .nil w
  | cons c cs ih =>
    have hcs : ∀ c ∈ cs, c.IsLocal := fun d hd => hbatch d (List.mem_cons_of_mem _ hd)
    rw [edits]
    rcases attempt_local limit (hbatch c List.mem_cons_self) hw hnormal with
      ⟨hedit, a, w', hstep, hends, hinverse, hsheets⟩ | ⟨e, back, w', hedit, hstep, hmade⟩
    · rw [← hsheets] at hw hnormal
      have hrest := ih hcs hw hnormal
      rw [trace_cons hstep hends, inverses_cons, hedit, hstep]
      simp only [hinverse, List.append_nil]
      exact .skip hsheets hrest
    · obtain ⟨source, hsource, hwrote⟩ := hmade.wrote
      have hframe : w'.frame = w.frame := by rw [hwrote, Workbook.frame_putPart]
      have hnormal' : ∀ s ∈ w'.sheets, s.cells.All Cell.Normal := by
        rw [hwrote]
        exact Workbook.normal_putPart hnormal hsource
      have hrest := ih hcs (Workbook.sheets_ne_nil_of_frame hframe hw) hnormal'
      rw [trace_cons hstep rfl, inverses_cons, hedit, hstep]
      exact .edit hmade hrest

namespace LocalRun

variable {es : List Edit} {inverse : List Command}

/-- Local commands change nothing but cells and the active sheet. -/
theorem frame_eq (h : LocalRun limit w es inverse w') : w'.frame = w.frame := by
  induction h with
  | nil w => rfl
  | skip hsheets _ ih => rw [ih, Workbook.frame, hsheets, Workbook.frame]
  | edit hmade _ ih =>
    obtain ⟨source, -, rfl⟩ := hmade.wrote
    rw [ih, Workbook.frame_putPart]

end LocalRun

/-! ## What the edits saw -/

/-- What the first edit at a place saw there; if there is none, what the place holds now. The sheets of
the edits are found by `sheetOf`. -/
def firstSeen (sheetOf : Edit → Nat) (es : List Edit) (now : Workbook) (i : Nat) (p : Position)
    (part : Cell.Part) : Cell :=
  match es.find? (Edit.isAt sheetOf i p part) with
  | some e => e.old.only part
  | none => now.partAt i p part

/-- An edit is met on the sheet it is looked for, at its position and its part. -/
theorem Edit.isAt_iff {sheetOf : Edit → Nat} {e : Edit} :
    e.isAt sheetOf i p part = true ↔ sheetOf e = i ∧ e.position = p ∧ e.part = part := by
  simp [Edit.isAt]

/-- The first edit that is met decides what is seen. -/
theorem firstSeen_cons_of_isAt {sheetOf : Edit → Nat} {e : Edit} {es : List Edit}
    (h : e.isAt sheetOf i p part = true) (now : Workbook) :
    firstSeen sheetOf (e :: es) now i p part = e.old.only part := by
  rw [firstSeen, List.find?_cons_of_pos h]

theorem firstSeen_cons_of_not {sheetOf : Edit → Nat} {e : Edit} {es : List Edit}
    (h : ¬e.isAt sheetOf i p part = true) (now : Workbook) :
    firstSeen sheetOf (e :: es) now i p part = firstSeen sheetOf es now i p part := by
  rw [firstSeen, List.find?_cons_of_neg h, firstSeen]

/-- The first edit made at a place saw what the run found there. -/
theorem LocalRun.firstSeen_home {es : List Edit} {inverse : List Command}
    (h : LocalRun limit w es inverse w') :
    firstSeen Edit.home es w' i p part = w.partAt i p part := by
  induction h with
  | nil w => rfl
  | skip hsheets _ ih => rw [ih, Workbook.partAt, hsheets, Workbook.partAt]
  | @edit u v w e es back inverse hmade _ ih =>
    by_cases hat : e.isAt Edit.home i p part = true
    · obtain ⟨rfl, rfl, rfl⟩ := Edit.isAt_iff.mp hat
      rw [firstSeen_cons_of_isAt hat, hmade.saw]
    · obtain ⟨source, -, rfl⟩ := hmade.wrote
      rw [firstSeen_cons_of_not hat, ih]
      refine Workbook.partAt_putPart_of_ne fun hsame => hat ?_
      exact Edit.isAt_iff.mpr ⟨hsame.1.symm, hsame.2.1.symm, hsame.2.2.symm⟩

/-! ## Where the inverse leads -/

/-- A workbook with the edits put back on the sheets where they land, the last one first. -/
def putBack (active : Nat) (now : Workbook) : List Edit → Workbook
  | [] => now
  | e :: es => (putBack active now es).putPart (e.landing active) e.position e.part e.old

/-- Putting cells back changes nothing but cells. -/
theorem frame_putBack (active : Nat) (now : Workbook) (es : List Edit) :
    (putBack active now es).frame = now.frame := by
  induction es with
  | nil => rfl
  | cons e es ih => rw [putBack, Workbook.frame_putPart, ih]

theorem activeIndex_putBack (active : Nat) (now : Workbook) (es : List Edit) :
    (putBack active now es).activeIndex = now.activeIndex := by
  induction es with
  | nil => rfl
  | cons e es ih => rw [putBack, Workbook.activeIndex_putPart, ih]

/-- Each place ends up with what the first edit that lands there saw. -/
theorem partAt_putBack {active : Nat} {now : Workbook} {es : List Edit}
    (hes : ∀ e ∈ es, e.landing active < now.sheets.length) :
    (putBack active now es).partAt i p part = firstSeen (Edit.landing active) es now i p part := by
  induction es with
  | nil => rfl
  | cons e es ih =>
    have hlength := Workbook.length_sheets_of_frame (frame_putBack active now es)
    have he := hes e List.mem_cons_self
    rw [putBack]
    by_cases hat : e.isAt (Edit.landing active) i p part = true
    · rw [firstSeen_cons_of_isAt hat]
      obtain ⟨rfl, rfl, rfl⟩ := Edit.isAt_iff.mp hat
      exact Workbook.partAt_putPart_self (by omega)
    · rw [firstSeen_cons_of_not hat, ← ih fun e he => hes e (List.mem_cons_of_mem _ he)]
      refine Workbook.partAt_putPart_of_ne fun ⟨hi, hp, hpart⟩ => hat ?_
      exact Edit.isAt_iff.mpr ⟨hi.symm, hp.symm, hpart.symm⟩

/-- The address of an edit is about the sheet where the edit lands. -/
theorem Edit.Made.indexOf?_eq {e : Edit} {back : Command} (h : e.Made limit back v w)
    {now : Workbook} (hnow : now.frame = v.frame) :
    now.indexOf? e.address = some (e.landing now.activeIndex) := by
  have hnamed := h.named
  cases hsheet : e.address.sheet with
  | none => simp [Workbook.indexOf?, Edit.landing, hsheet]
  | some name =>
    -- a name is about the same sheet, whichever one is active
    have hsame : now.indexOf? e.address = v.indexOf? e.address := by
      have hnames := Workbook.indexOf?_congr (v := { now with active := v.activeIndex })
        (w := { v with active := v.activeIndex }) hnow (by
          simp [Workbook.activeIndex, Workbook.length_sheets_of_frame hnow]) e.address
      simpa [Workbook.indexOf?, hsheet, Workbook.sheetIndex?] using hnames
    rw [hsame, hnamed, Edit.landing, hsheet]
    simp

namespace LocalRun

variable {es : List Edit} {inverse : List Command}

/-- Edits land on sheets that there are. -/
theorem landing_lt (h : LocalRun limit w es inverse w') {now : Workbook} (hw : now.sheets ≠ [])
    (hnow : now.frame = w.frame) : ∀ e ∈ es, e.landing now.activeIndex < now.sheets.length := by
  induction h with
  | nil w =>
    intro e he
    cases he
  | skip hsheets _ ih =>
    refine ih ?_
    rw [hnow, Workbook.frame, Workbook.frame, hsheets]
  | edit hmade _ ih =>
    intro e he
    rcases List.mem_cons.mp he with rfl | he
    · exact Workbook.indexOf?_lt hw (hmade.indexOf?_eq hnow)
    · refine ih ?_ e he
      obtain ⟨source, -, rfl⟩ := hmade.wrote
      rw [hnow, Workbook.frame_putPart]

/-- On a workbook with the same frame, the inverse puts the edits back. -/
theorem leadsBack (h : LocalRun limit w es inverse w') {now : Workbook} (hw : now.sheets ≠ [])
    (hnow : now.frame = w.frame) :
    LeadsBack limit inverse now (putBack now.activeIndex now es) := by
  induction h with
  | nil w => exact .nil now
  | skip hsheets _ ih =>
    refine ih ?_
    rw [hnow, Workbook.frame, Workbook.frame, hsheets]
  | @edit u v w e es back inverse hmade _ ih =>
    have hrest : LeadsBack limit inverse now (putBack now.activeIndex now es) := by
      refine ih ?_
      obtain ⟨source, -, rfl⟩ := hmade.wrote
      rw [hnow, Workbook.frame_putPart]
    -- the last command finds the address where it was, but for the active sheet
    have hframe := frame_putBack now.activeIndex now es
    have hindex := hmade.indexOf?_eq (hframe.trans hnow)
    rw [activeIndex_putBack] at hindex
    obtain ⟨inverse', op, hop, hrun⟩ :=
      hmade.putsBack _ _ (Workbook.sheets_ne_nil_of_frame hframe hw) hindex
    exact hrest.append (.single hop ⟨inverse', hrun⟩)

end LocalRun

/-! ## When an undo restores all sheets -/

/-- Where no edit that strays comes from or lands, the same edits land as were made there. -/
theorem firstSeen_landing_of_not {active : Nat} {es : List Edit} {now : Workbook}
    (h : ∀ e ∈ es, e.Strays active → e.position = p → e.part = part →
      ¬(i = e.home ∨ i = e.landing active)) :
    firstSeen (Edit.landing active) es now i p part = firstSeen Edit.home es now i p part := by
  have hsame : ∀ e ∈ es, e.isAt (Edit.landing active) i p part = e.isAt Edit.home i p part := by
    intro e he
    by_cases hstrays : e.Strays active
    · rw [Bool.eq_iff_iff, Edit.isAt_iff, Edit.isAt_iff]
      constructor
      · rintro ⟨hi, hp, hpart⟩
        exact absurd (Or.inr hi.symm) (h e he hstrays hp hpart)
      · rintro ⟨hi, hp, hpart⟩
        exact absurd (Or.inl hi.symm) (h e he hstrays hp hpart)
    · have heq : e.landing active = e.home := by simpa [Edit.Strays] using hstrays
      rw [Edit.isAt, Edit.isAt, heq]
  rw [firstSeen, firstSeen, List.find?_congr hsame]

/-- It is enough to look at the places that edits which stray came from or land on. -/
theorem LocalRun.sheets_putBack_iff {es : List Edit} {inverse : List Command}
    (h : LocalRun limit w es inverse w') (hw : w.sheets ≠ []) :
    (putBack w'.activeIndex w' es).sheets = w.sheets ↔
      ∀ e ∈ es, e.Strays w'.activeIndex → ∀ i, i = e.home ∨ i = e.landing w'.activeIndex →
        firstSeen (Edit.landing w'.activeIndex) es w' i e.position e.part =
          w.partAt i e.position e.part := by
  have hframe := h.frame_eq
  have hback := (frame_putBack w'.activeIndex w' es).trans hframe
  have hlanding := h.landing_lt (Workbook.sheets_ne_nil_of_frame hframe hw) hframe
  rw [Workbook.sheets_eq_iff hback]
  simp only [partAt_putBack hlanding]
  constructor
  · intro hall e _ _ i _
    exact hall i e.position e.part
  · intro hstray i p part
    by_cases hmet : ∃ e ∈ es, e.Strays w'.activeIndex ∧ e.position = p ∧ e.part = part ∧
        (i = e.home ∨ i = e.landing w'.activeIndex)
    · obtain ⟨e, he, hstrays, rfl, rfl, hi⟩ := hmet
      exact hstray e he hstrays i hi
    · rw [firstSeen_landing_of_not, h.firstSeen_home]
      intro e he hstrays hp hpart hi
      exact hmet ⟨e, he, hstrays, hp, hpart, hi⟩

/-- A sheet with a text in its first cell. -/
def Sheet.withFirstCell (name text : String) : Sheet where
  name := name
  cells := .ofList [(⟨1, 1, one_mem_rows, one_mem_columns⟩, { value := text })]

/-- A workbook with two sheets that differ in their first cells. -/
def Workbook.twoSheets : Workbook where
  sheets := [.withFirstCell "Sheet1" "a", .withFirstCell "Data" "b"]

namespace Editor

variable (ed : Editor) {undo : Command} {batch : List Command}

/-- A batch that writes parts of single cells and activates sheets is undone as follows: every part of a
cell ends up as it was seen by the first edit that lands there. So all sheets are restored exactly if
that is so at the places which edits that stray came from or land on; in particular if none strays. -/
theorem sheets_undo_iff (hundo : undo.isUndo = true) (hdepth : 1 ≤ ed.history.depth)
    (hw : w.sheets ≠ []) (hnormal : ∀ s ∈ w.sheets, s.cells.All Cell.Normal)
    (hbatch : ∀ c ∈ batch, c.IsLocal)
    (hcaptured : inverses (trace Workbook.host ed.copyLimit batch w).attempts ≠ []) :
    ∃ outcome ed₁ w₁ outcome' ed₂ w₂,
      ed.execute Workbook.host batch w = .ok (outcome, ed₁, w₁) ∧
      ed₁.execute Workbook.host [undo] w₁ = .ok (outcome', ed₂, w₂) ∧ outcome'.success = true ∧
      (∀ i p part, w₂.partAt i p part =
        firstSeen (Edit.landing w₁.activeIndex) (edits ed.copyLimit batch w) w₁ i p part) ∧
      (w₂.sheets = w.sheets ↔
        ∀ e ∈ edits ed.copyLimit batch w, e.Strays w₁.activeIndex →
          ∀ i, i = e.home ∨ i = e.landing w₁.activeIndex →
            firstSeen (Edit.landing w₁.activeIndex) (edits ed.copyLimit batch w) w₁ i
              e.position e.part = w.partAt i e.position e.part) := by
  have hrun := localRun_trace ed.copyLimit hbatch hw hnormal
  have hrunBatch :=
    runBatch_workbook_of_not_sort ed.copyLimit (fun c hc => (hbatch c hc).not_isSort) hw
  generalize (trace Workbook.host ed.copyLimit batch w).state = w₁ at hrun hrunBatch
  have hlone : isLoneUndo batch = false := by
    cases hlone : isLoneUndo batch with
    | false => rfl
    | true => exact absurd (inverse_eq_nil_of_isLoneUndo hlone hrunBatch) hcaptured
  have hw₁ := Workbook.sheets_ne_nil_of_frame hrun.frame_eq hw
  have hhistory := History.suffix_push (h := ed.history) List.nil_suffix hdepth hcaptured
  obtain ⟨outcome', history, hexecute, hsuccess, -⟩ :=
    execute_undo { ed with history := ed.history.push _ } hundo hhistory
      (hrun.leadsBack hw₁ hrun.frame_eq)
  exact ⟨_, _, w₁, outcome', _, _, ed.execute_of_runBatch hlone hrunBatch, hexecute, hsuccess,
    fun i p part => partAt_putBack (hrun.landing_lt hw₁ hrun.frame_eq),
    hrun.sheets_putBack_iff hw⟩

/-- A write without a sheet name, and then another sheet is made active. -/
def writeThenLeave : List Command :=
  [.plain .setValue ["A1", "x"], .plain .activateSheet ["Data"]]

/-- A write without a sheet name lands on the sheet that was made active after it. -/
theorem sheets_undo_iff_twoSheets :
    ∃ outcome ed₁ w₁ outcome' ed₂ w₂,
      execute {} Workbook.host writeThenLeave .twoSheets = .ok (outcome, ed₁, w₁) ∧
      ed₁.execute Workbook.host [.plain .undo []] w₁ = .ok (outcome', ed₂, w₂) ∧
      outcome'.success = true ∧
      (∀ i p part, w₂.partAt i p part =
        firstSeen (Edit.landing w₁.activeIndex) (edits none writeThenLeave .twoSheets) w₁ i p part) ∧
      (w₂.sheets = Workbook.twoSheets.sheets ↔
        ∀ e ∈ edits none writeThenLeave .twoSheets, e.Strays w₁.activeIndex →
          ∀ i, i = e.home ∨ i = e.landing w₁.activeIndex →
            firstSeen (Edit.landing w₁.activeIndex) (edits none writeThenLeave .twoSheets) w₁ i
              e.position e.part = Workbook.twoSheets.partAt i e.position e.part) :=
  sheets_undo_iff {} rfl (by decide) (by decide) (by decide +kernel) (by decide +kernel)
    (by decide +kernel)

/-- The undo leaves the sheet that was written to as it is and overwrites a cell of the other one, which
the batch had nothing to do with. -/
theorem undo_writeThenLeave_twoSheets :
    Workbook.twoSheets.NamesDistinct ∧
    (∀ s ∈ Workbook.twoSheets.sheets, s.cells.All Cell.Normal) ∧
    (∀ c ∈ writeThenLeave, c.IsLocal) ∧
    inverses (trace Workbook.host none writeThenLeave .twoSheets).attempts ≠ [] ∧
    ((execute {} Workbook.host writeThenLeave .twoSheets).bind fun (_, ed, w) =>
        ed.execute Workbook.host [.plain .undo []] w).map (fun r => (r.1.success, r.2.2.sheets)) =
      .ok (true, [.withFirstCell "Sheet1" "x", .withFirstCell "Data" "a"]) ∧
    Workbook.twoSheets.sheets ≠ [.withFirstCell "Sheet1" "x", .withFirstCell "Data" "a"] := by
  refine ⟨?_, ?_, ?_, ?_, ?_, ?_⟩ <;> decide +kernel

end Editor

end SheetScript
