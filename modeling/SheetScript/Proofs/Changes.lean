import SheetScript.Proofs.Charts
import SheetScript.Proofs.Lines
import SheetScript.Proofs.Requests

/-!
# What a call does to a workbook

Every call on a workbook with sheets is refused without a trace, or it makes one change out of a short
list; a sort can also stop everything. All that is kept by calls is derived from that list.

- `Cells.All`: what holds of every cell; the operations on cells keep it.
- `Workbook.Makes`: the cells that calls make of the cells of a workbook.
- `Workbook.Change`: the list of changes.
- `Workbook.obeys_answer`, `Workbook.answer_cases`: every call but a sort, and every call.
- `Change.sheets_ne_nil`, `Workbook.answers_of_change`: a workbook with sheets keeps some, and answers
  every call unless a sort stops everything.
-/

namespace SheetScript

open Grid

/-! ## What holds of every cell -/

/-- Whether every cell has a property. -/
def Cells.All (P : Cell → Prop) (cells : Cells) : Prop :=
  ∀ p, P (cells.get p)

/-- Only the cells in use have to be looked at. -/
theorem Cells.all_iff {P : Cell → Prop} {cells : Cells} (hblank : P .blank) :
    cells.All P ↔ ∀ e ∈ cells.toList, P e.2 :=
  Cells.forall_get_iff (P := fun _ c => P c) fun _ => hblank

namespace Cells.All

variable {P : Cell → Prop} {cells origin : Cells}

/-- What holds of all cells holds of the ones in use. -/
theorem mem_toList (h : cells.All P) {e : Position × Cell} (he : e ∈ cells.toList) : P e.2 := by
  obtain ⟨p, c⟩ := e
  rw [← (Cells.mem_toList.mp he).1]
  exact h p

theorem empty (hblank : P .blank) : Cells.empty.All P := by
  intro p
  rw [get_empty]
  exact hblank

/-- One cell is put among cells of the same kind. -/
theorem set (h : cells.All P) (p : Position) {c : Cell} (hc : P c) : (cells.set p c).All P := by
  intro q
  rw [get_set]
  split
  · exact hc
  · exact h q

/-- Several cells are put, and what holds of them and of the old ones holds of all. -/
theorem setAll (h : cells.All P) {entries : List (Position × Cell)}
    (hentries : ∀ e ∈ entries, P e.2) : (cells.setAll entries).All P := by
  induction entries generalizing cells with
  | nil => exact h
  | cons e rest ih =>
    exact ih (h.set e.1 (hentries e List.mem_cons_self))
      fun e' he' => hentries e' (List.mem_cons_of_mem _ he')

/-- A change that keeps a property of one cell keeps it of all cells. -/
theorem update (h : cells.All P) {f : Cell → Cell} (hf : ∀ c, P c → P (f c))
    (positions : List Position) : (cells.update positions f).All P := by
  induction positions generalizing cells with
  | nil => exact h
  | cons p rest ih => exact ih (h.set p (hf _ (h p)))

/-- Cells that are not kept become blank. -/
theorem keep (h : cells.All P) (hblank : P .blank) (wanted : Position → Bool) :
    (cells.keep wanted).All P := by
  intro p
  rw [get_keep]
  split
  · exact h p
  · exact hblank

/-- Moving cells makes no new ones but blanks. -/
theorem relocate (h : cells.All P) (hblank : P .blank) (f : Position → Option Position) :
    (cells.relocate f).All P := by
  refine (empty hblank).setAll ?_
  rintro ⟨q, c⟩ he
  obtain ⟨p, hp, -⟩ := mem_moved.mp he
  have hc : P c := h.mem_toList hp
  exact hc

/-- A sort moves cells, and so it keeps what holds of all of them. -/
theorem sortRows (h : cells.All P) (hblank : P .blank) {b : Block} {keyColumn : Nat}
    {ascending : Bool} {sorted : Cells}
    (hsorted : cells.sortRows? b keyColumn ascending = some sorted) : sorted.All P := by
  obtain ⟨rows, -, rfl⟩ := Option.map_eq_some_iff.mp hsorted
  exact h.relocate hblank _

/-- A copy has cells of the sheet it is made on and of the sheet it is made from. -/
theorem pasteBlock {s : Sheet} (h : s.cells.All P) (horigin : origin.All P) (hblank : P .blank)
    (source : Block) (corner : Position) : (s.pasteBlock source origin corner).cells.All P := by
  refine (h.keep hblank _).setAll ?_
  rintro ⟨q, c⟩ he
  obtain ⟨p, hp, -⟩ := mem_moved.mp he
  have hc : P c := horigin.mem_toList (List.mem_of_mem_filter hp)
  exact hc

end Cells.All

/-! ## Refusals -/

section

variable {α β : Type} {r : Except Failure α} {P : α → Prop} {Q : β → Prop}

/-- A result that has a property, unless it is a refusal. -/
def Gives (r : Except Failure α) (P : α → Prop) : Prop :=
  (∃ e : HostError, e.isSession = false ∧ r = .error (.error e)) ∨ ∃ a, r = .ok a ∧ P a

namespace Gives

theorem pure {a : α} (h : P a) : Gives (.ok a) P :=
  Or.inr ⟨a, rfl, h⟩

/-- A refusal is one of the two ways to end well. -/
theorem refuse {e : HostError} (h : e.isSession = false) : Gives (.error (.error e)) P :=
  Or.inl ⟨e, h, rfl⟩

/-- A computation ends well if its first part does, and the rest does for all that part can give. -/
theorem bind {k : α → Except Failure β} (h : Gives r P) (hk : ∀ a, P a → Gives (k a) Q) :
    Gives (r >>= k) Q := by
  rcases h with ⟨e, he, rfl⟩ | ⟨a, rfl, ha⟩
  · exact refuse he
  · exact hk a ha

end Gives

end

namespace Workbook

variable {w w' : Workbook} {α : Type}

/-! ## The changes -/

/-- The cells that calls make of the cells of a workbook. -/
inductive Makes (w : Workbook) : Cell → Prop
  | blank : w.Makes .blank
  | old {s : Sheet} (hs : s ∈ w.sheets) (p : Position) : w.Makes (s.cells.get p)
  | value {c : Cell} (h : w.Makes c) (text : String) : w.Makes (c.withValue text)
  | entry {c : Cell} (h : w.Makes c) (text : String) : w.Makes (c.withEntry text)
  | bold {c : Cell} (h : w.Makes c) (bold : Bool) : w.Makes (c.withBold bold)
  | fill {c : Cell} (h : w.Makes c) (color : String) : w.Makes (c.withFill color)

/-- What a call can do to a workbook. -/
inductive Change (w : Workbook) : Workbook → Prop
  | nothing : w.Change w
  | select (a : Address) : w.Change { w with selection := some a }
  /-- Other cells on one sheet. -/
  | cells {i : Nat} {s : Sheet} {cells : Cells} (hs : w.sheets[i]? = some s)
      (hcells : cells.All w.Makes) : w.Change (w.withSheet i { s with cells })
  | addChart {i : Nat} {s : Sheet} {c : Chart} (hs : w.sheets[i]? = some s)
      (hfree : s.hasChart c.name = false) :
      w.Change (w.withSheet i { s with charts := s.charts ++ [c] })
  | deleteChart {i : Nat} {s : Sheet} (hs : w.sheets[i]? = some s) (name : String) :
      w.Change (w.withSheet i (s.eraseChart name))
  | addSheet {name : String} (hfree : w.sheetIndex? name = none) :
      w.Change { w with sheets := w.sheets ++ [{ name }] }
  | renameSheet {i : Nat} {s : Sheet} {name : String} (hs : w.sheets[i]? = some s)
      (hfree : (w.sheetIndex? name).any (· != i) = false) :
      w.Change (w.withSheet i { s with name })
  /-- One sheet less, with some sheet active. -/
  | deleteSheet {i active : Nat} (hi : i < w.sheets.length)
      (hactive : active < w.sheets.length - 1) :
      w.Change { w with sheets := w.sheets.eraseIdx i, active }
  | activate {i : Nat} (hi : i < w.sheets.length) : w.Change { w with active := i }

/-! ## What addresses and names give -/

/-- Resolving an address is refused, or it leads to a block of a sheet. -/
theorem gives_resolve (hw : w.sheets ≠ []) (a : Address) :
    Gives (orFail (w.resolve a)) fun r => ∃ s, w.Names a r.1 s r.2 := by
  cases h : w.resolve a with
  | error e => exact .refuse (isSession_of_resolve h)
  | ok r => exact .pure (names_of_resolve hw h)

/-- A sheet that is asked for by its name has an index, or the call is refused. -/
theorem gives_requireSheet (w : Workbook) (name : String) :
    Gives (orFail (w.requireSheet name)) (· < w.sheets.length) := by
  rw [requireSheet]
  cases h : w.sheetIndex? name with
  | none => exact .refuse rfl
  | some i => exact .pure (sheetIndex?_eq_some_iff.mp h).1

theorem gives_sheetAt {i : Nat} (hi : i < w.sheets.length) :
    Gives (w.sheetAt i) fun s => w.sheets[i]? = some s := by
  have hs := List.getElem?_eq_getElem hi
  rw [sheetAt_eq_ok hs]
  exact .pure hs

theorem gives_activeSheet (hw : w.sheets ≠ []) :
    Gives w.activeSheet fun s => w.activeSheet? = some s :=
  gives_sheetAt (activeIndex_lt hw)

/-- A change to the sheet of an address is a change of the workbook. -/
theorem gives_changeAt (hw : w.sheets ≠ []) {a : Address}
    {f : Sheet → Block → Except Failure Sheet}
    (hf : ∀ i s b, w.sheets[i]? = some s → Gives (f s b) fun t => w.Change (w.withSheet i t)) :
    Gives (w.changeAt a f) w.Change := by
  refine (gives_resolve hw a).bind fun ⟨i, b⟩ ⟨s, h⟩ => ?_
  refine (gives_sheetAt (indexOf?_lt hw h.indexOf?_eq)).bind fun t ht => ?_
  exact (hf i t b ht).bind fun _ h => .pure h

/-- So is a change to the active sheet. -/
theorem gives_changeActive (hw : w.sheets ≠ []) {f : Sheet → Except Failure Sheet}
    (hf : ∀ s, w.activeSheet? = some s →
      Gives (f s) fun t => w.Change (w.withSheet w.activeIndex t)) :
    Gives (w.changeActive f) w.Change := by
  refine (gives_activeSheet hw).bind fun s hs => ?_
  exact (hf s hs).bind fun _ h => .pure h

/-! ## The calls that change a workbook -/

/-- The cells that are there are among those the workbook can make. -/
theorem old_all {i : Nat} {s : Sheet} (hs : w.sheets[i]? = some s) : s.cells.All w.Makes :=
  fun p => .old (List.mem_of_getElem? hs) p

/-- A write is refused, or it changes cells one by one. -/
theorem gives_write (hw : w.sheets ≠ []) (a : Address) {f : Cell → Cell}
    (hf : ∀ c, w.Makes c → w.Makes (f c)) : Gives (w.write a f) w.Change := by
  refine gives_changeAt hw fun i s b hs => ?_
  rw [Sheet.writeBlock?]
  by_cases hsize : b.size ≤ Sheet.maxWrite
  · rw [if_pos hsize]
    exact .pure (.cells hs ((old_all hs).update hf b.positions))
  · rw [if_neg hsize]
    exact .refuse rfl

theorem gives_clear (hw : w.sheets ≠ []) (a : Address) : Gives (w.clear a) w.Change :=
  gives_changeAt hw fun _ _ _ hs => .pure (.cells hs ((old_all hs).keep .blank _))

/-- A sort is the only call that can stop everything on a workbook with sheets, before it changes
anything. -/
theorem gives_sort_or_stop (hw : w.sheets ≠ []) (a : Address) (key : Nat) (ascending : Bool) :
    Gives (w.sort a key ascending) w.Change ∨
      w.sort a key ascending = .error (.stop .disorder) := by
  cases hresolve : w.resolve a with
  | error e =>
    rw [Workbook.sort, changeAt, hresolve]
    exact Or.inl (.refuse (isSession_of_resolve hresolve))
  | ok r =>
    obtain ⟨s, h⟩ := names_of_resolve hw hresolve
    rw [Workbook.sort, h.changeAt]
    by_cases hkey : key < r.2.width
    · rw [if_pos hkey]
      dsimp only
      cases hsorted : s.cells.sortRows? (s.areaToSort a.reference r.2 (r.2.left + key))
          (r.2.left + key) ascending with
      | some cells =>
        exact Or.inl (.pure (.cells h.sheet_eq ((old_all h.sheet_eq).sortRows .blank hsorted)))
      | none => exact Or.inr rfl
    · rw [if_neg hkey]
      exact Or.inl (.refuse rfl)

/-- A copy is refused, or it puts cells of one sheet on another. -/
theorem gives_copy (hw : w.sheets ≠ []) (source target : Address) :
    Gives (w.copy source target) w.Change := by
  refine (gives_resolve hw source).bind fun ⟨i, b⟩ ⟨_, h⟩ => ?_
  refine (gives_resolve hw target).bind fun ⟨j, b'⟩ ⟨_, h'⟩ => ?_
  refine (gives_sheetAt (indexOf?_lt hw h.indexOf?_eq)).bind fun s hs => ?_
  refine (gives_sheetAt (indexOf?_lt hw h'.indexOf?_eq)).bind fun t ht => ?_
  exact .pure (.cells ht ((old_all ht).pasteBlock (old_all hs) .blank b b'.topLeft))

/-- An insertion is refused if it shifts the wrong way; else cells move. -/
theorem gives_insert (hw : w.sheets ≠ []) (lines : Span) (shift : Shift) :
    Gives (w.insert lines shift) w.Change := by
  rw [insert]
  by_cases hshift : shift = lines.insertShift
  · rw [if_pos hshift]
    exact gives_changeActive hw fun s hs => .pure (.cells hs ((old_all hs).relocate .blank _))
  · rw [if_neg hshift]
    exact .refuse rfl

theorem gives_delete (hw : w.sheets ≠ []) (lines : Span) (shift : Shift) :
    Gives (w.delete lines shift) w.Change := by
  rw [delete]
  by_cases hshift : shift = lines.deleteShift
  · rw [if_pos hshift]
    exact gives_changeActive hw fun s hs => .pure (.cells hs ((old_all hs).relocate .blank _))
  · rw [if_neg hshift]
    exact .refuse rfl

theorem gives_select (hw : w.sheets ≠ []) (a : Address) : Gives (w.select a) w.Change :=
  (gives_resolve hw a).bind fun _ _ => .pure (.select a)

/-- A sheet is added unless its name is taken. -/
theorem gives_addSheet (w : Workbook) (name : String) : Gives (w.addSheet name) w.Change := by
  rw [addSheet]
  cases hname : w.sheetIndex? name with
  | none => exact .pure (.addSheet hname)
  | some i => exact .refuse rfl

/-- A sheet is renamed unless it is missing or the new name is taken. -/
theorem gives_renameSheet (w : Workbook) (old new : String) :
    Gives (w.renameSheet old new) w.Change := by
  refine (gives_requireSheet w old).bind fun i hi => ?_
  cases hfree : (w.sheetIndex? new).any (· != i) with
  | true => exact .refuse rfl
  | false => exact (gives_sheetAt hi).bind fun s hs => .pure (.renameSheet hs hfree)

/-- After a sheet is deleted another one is active. -/
theorem gives_deleteSheet (w : Workbook) (name : String) :
    Gives (w.deleteSheet name) w.Change := by
  refine (gives_requireSheet w name).bind fun i hi => ?_
  by_cases hlength : w.sheets.length = 1
  · rw [if_pos hlength]
    exact .refuse rfl
  · rw [if_neg hlength]
    refine .pure (.deleteSheet hi ?_)
    have hactive := activeIndex_lt (List.ne_nil_of_length_pos (by omega : 0 < w.sheets.length))
    split <;> omega

theorem gives_activateSheet (w : Workbook) (name : String) :
    Gives (w.activateSheet name) w.Change :=
  (gives_requireSheet w name).bind fun _ hi => .pure (.activate hi)

/-- A chart is added if its source is resolved, under a name that is free. -/
theorem gives_addChart (hw : w.sheets ≠ []) (kind : String) (source : Address) (title : String) :
    Gives (w.addChart kind source title) fun r => w.Change r.2 := by
  obtain ⟨s, hs⟩ := exists_activeSheet? hw
  have hnext : Gives (w.nextChart source) (· = s.freshChartName) := by
    refine (gives_resolve hw source).bind fun _ _ => ?_
    rw [activeSheet_eq_ok hs]
    exact .pure rfl
  refine hnext.bind fun name hname => ?_
  rw [changeActive_eq hs]
  refine .pure (.addChart hs ?_)
  rw [hname]
  exact s.hasChart_freshChartName

theorem gives_deleteChart (hw : w.sheets ≠ []) (name : String) :
    Gives (w.deleteChart name) w.Change := by
  obtain ⟨s, hs⟩ := exists_activeSheet? hw
  by_cases hname : Text.upperAscii name ∈ s.chartKeys
  · rw [deleteChart_eq hs hname]
    exact .pure (.deleteChart hs name)
  · rw [deleteChart_eq_error hs hname]
    exact .refuse rfl

/-! ## The calls that read -/

theorem gives_cellAt (hw : w.sheets ≠ []) (a : Address) : Gives (w.cellAt a) fun _ => True := by
  refine (gives_resolve hw a).bind fun ⟨i, b⟩ ⟨s, h⟩ => ?_
  exact (gives_sheetAt (indexOf?_lt hw h.indexOf?_eq)).bind fun _ _ => .pure trivial

/-- A snapshot of a block is given wherever an address leads to one. -/
theorem gives_snapshot (hw : w.sheets ≠ []) (a : Address) :
    Gives (w.snapshot a) fun _ => True := by
  refine (gives_resolve hw a).bind fun ⟨i, b⟩ ⟨s, h⟩ => ?_
  exact (gives_sheetAt (indexOf?_lt hw h.indexOf?_eq)).bind fun _ _ => .pure trivial

theorem gives_sheetName (hw : w.sheets ≠ []) (name : Option String) :
    Gives (w.sheetName name) fun _ => True := by
  cases name with
  | none => exact (gives_sheetAt (activeIndex_lt hw)).bind fun _ _ => .pure trivial
  | some name =>
    refine (gives_requireSheet w name).bind fun i hi => ?_
    exact (gives_sheetAt hi).bind fun _ _ => .pure trivial

theorem gives_charts (hw : w.sheets ≠ []) : Gives w.charts fun _ => True :=
  (gives_activeSheet hw).bind fun _ _ => .pure trivial

/-! ## Every call -/

/-- A call is refused and leaves the workbook, or it makes a change. -/
def Obeys (w : Workbook) (call : Call Workbook α) : Prop :=
  (∃ e : HostError, e.isSession = false ∧ call.run w = (.error (.error e), w)) ∨
    ∃ a w', call.run w = (.ok a, w') ∧ w.Change w'

/-- A question changes nothing, so it only has to have an answer. -/
theorem obeys_ask {f : Workbook → Except Failure α} (h : Gives (f w) fun _ => True) :
    w.Obeys (ask f) := by
  rcases h with ⟨e, he, h⟩ | ⟨a, h, -⟩
  · exact Or.inl ⟨e, he, congrArg (·, w) h⟩
  · exact Or.inr ⟨a, w, congrArg (·, w) h, .nothing⟩

/-- A call that changes the workbook leaves it as it was when it is refused. -/
theorem run_act (f : Workbook → Except Failure Workbook) (w : Workbook) :
    (act f).run w =
      match f w with
      | .ok next => (.ok (), next)
      | .error e => (.error e, w) := rfl

theorem run_actWith (f : Workbook → Except Failure (α × Workbook)) (w : Workbook) :
    (actWith f).run w =
      match f w with
      | .ok (a, next) => (.ok a, next)
      | .error e => (.error e, w) := rfl

/-- A call that changes the workbook obeys if what it does is a change. -/
theorem obeys_act {f : Workbook → Except Failure Workbook} (h : Gives (f w) w.Change) :
    w.Obeys (act f) := by
  have hrun := run_act f w
  rcases h with ⟨e, he, h⟩ | ⟨w', h, hw'⟩
  · rw [h] at hrun
    exact Or.inl ⟨e, he, hrun⟩
  · rw [h] at hrun
    exact Or.inr ⟨(), w', hrun, hw'⟩

theorem obeys_actWith {f : Workbook → Except Failure (α × Workbook)}
    (h : Gives (f w) fun r => w.Change r.2) : w.Obeys (actWith f) := by
  have hrun := run_actWith f w
  rcases h with ⟨e, he, h⟩ | ⟨⟨a, w'⟩, h, hw'⟩
  · rw [h] at hrun
    exact Or.inl ⟨e, he, hrun⟩
  · rw [h] at hrun
    exact Or.inr ⟨a, w', hrun, hw'⟩

/-- A call other than a sort on a workbook with sheets is refused without a trace or makes one change. -/
theorem obeys_answer (hw : w.sheets ≠ []) (r : Request) (hr : r.isSort = false) :
    w.Obeys (host.answer r) := by
  cases r with
  | start => exact Or.inr ⟨(), w, rfl, .nothing⟩
  | commit => exact Or.inr ⟨(), w, rfl, .nothing⟩
  | value a => exact obeys_ask ((gives_cellAt hw a).bind fun _ _ => .pure trivial)
  | formula a => exact obeys_ask ((gives_cellAt hw a).bind fun _ _ => .pure trivial)
  | bold a => exact obeys_ask ((gives_cellAt hw a).bind fun _ _ => .pure trivial)
  | fill a => exact obeys_ask ((gives_cellAt hw a).bind fun _ _ => .pure trivial)
  | setValue a text => exact obeys_act (gives_write hw a fun _ h => h.value text)
  | setFormula a text => exact obeys_act (gives_write hw a fun _ h => h.entry text)
  | setBold a bold => exact obeys_act (gives_write hw a fun _ h => h.bold bold)
  | setFill a color => exact obeys_act (gives_write hw a fun _ h => h.fill color)
  | clear a => exact obeys_act (gives_clear hw a)
  | select a => exact obeys_act (gives_select hw a)
  | insert lines shift => exact obeys_act (gives_insert hw lines shift)
  | delete lines shift => exact obeys_act (gives_delete hw lines shift)
  | copy source target => exact obeys_act (gives_copy hw source target)
  | snapshot a => exact obeys_ask (gives_snapshot hw a)
  | addSheet name => exact obeys_act (gives_addSheet w name)
  | sheetName name => exact obeys_ask (gives_sheetName hw name)
  | renameSheet old new => exact obeys_act (gives_renameSheet w old new)
  | deleteSheet name => exact obeys_act (gives_deleteSheet w name)
  | activateSheet name => exact obeys_act (gives_activateSheet w name)
  | addChart kind source title => exact obeys_actWith (gives_addChart hw kind source title)
  | charts => exact obeys_ask (gives_charts hw)
  | deleteChart name => exact obeys_act (gives_deleteChart hw name)
  | sort a key ascending => cases hr

/-- Every call on a workbook with sheets is refused without a trace or makes one change, or it is a sort
that stops everything. -/
theorem answer_cases (hw : w.sheets ≠ []) (r : Request) :
    w.Obeys (host.answer r) ∨
      r.isSort = true ∧ (host.answer r).run w = (.error (.stop .disorder), w) := by
  cases r with
  | sort a key ascending =>
    rcases gives_sort_or_stop hw a key ascending with h | h
    · exact Or.inl (obeys_act h)
    · have hrun := run_act (·.sort a key ascending) w
      rw [h] at hrun
      exact Or.inr ⟨rfl, hrun⟩
  | _ => exact Or.inl (obeys_answer hw _ rfl)

/-! ## What is kept -/

/-- No change takes the last sheet away. -/
theorem Change.sheets_ne_nil (h : w.Change w') (hw : w.sheets ≠ []) : w'.sheets ≠ [] := by
  cases h with
  | nothing | select _ | activate _ => exact hw
  | cells _ _ | addChart _ _ | deleteChart _ _ | renameSheet _ _ => exact sheets_withSheet_ne_nil hw _ _
  | addSheet _ => simp
  | deleteSheet hi hactive =>
    intro hnil
    have hlength := congrArg List.length hnil
    rw [List.length_eraseIdx_of_lt hi] at hlength
    simp only [List.length_nil] at hlength
    omega

/-- What every change keeps on a workbook with sheets, every call keeps. None lacks a sheet; only a sort can
stop everything. -/
theorem answers_of_change {P : Workbook → Prop} (hsheets : ∀ w, P w → w.sheets ≠ [])
    (hchange : ∀ w w', P w → w.Change w' → P w') : host.Answers (· = .disorder) P := by
  intro r w hw
  rcases answer_cases (hsheets w hw) r with (⟨e, -, hrun⟩ | ⟨a, w', hrun, hw'⟩) | ⟨-, hrun⟩
  · rw [hrun]
    exact ⟨nofun, hw⟩
  · rw [hrun]
    exact ⟨nofun, hchange w w' hw hw'⟩
  · rw [hrun]
    refine ⟨?_, hw⟩
    rintro _ ⟨⟩
    rfl

/-- Whatever is called, a workbook with sheets keeps some; only a sort stops everything. -/
theorem answers_sheets : host.Answers (· = .disorder) fun w => w.sheets ≠ [] :=
  answers_of_change (fun _ h => h) fun _ _ hw h => h.sheets_ne_nil hw

end Workbook

end SheetScript
