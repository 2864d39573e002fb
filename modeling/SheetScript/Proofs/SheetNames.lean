import SheetScript.Proofs.DeletedSheets
import SheetScript.Proofs.Footprints

/-!
# Sheet names that are read again

The commands that undo the creation or the renaming of a sheet carry names of sheets as text, and are
read like any other command: blanks and then quotes are taken off the ends. A name that has blanks
within its quotes is read as another, shorter name, so the undo may fail or meet another sheet.

- `Text.eq_of_sublist`, `Operation.eq_of_sheetName`: a name that is read as another one is not read as
  the same name in other letters either.
- `Editor.execute_undo_single`: an undo of one command.
- `exists_deleteSheet_iff`, `exists_renameSheet_iff`: when deleting or renaming a sheet gives a list of
  sheets.
- `Operation.ReadsBack`: when what a sheet command records is read as it is meant.
- `Editor.undo_sheetCommand_iff`: exactly then an undo restores the sheets.
-/

namespace SheetScript

open Grid

/-! ## Names -/

/-- Trimming only takes characters off. -/
theorem Text.trimChars_sublist (cs : List Char) : (trimChars cs).Sublist cs := by
  have hend : (trimEnd (trimStart cs)).reverse.Sublist (trimStart cs).reverse := by
    rw [trimEnd, List.reverse_reverse]
    exact List.dropWhile_sublist _
  exact (List.reverse_sublist.mp hend).trans (List.dropWhile_sublist _)

/-- A text that loses characters is not the same text in other letters. -/
theorem Text.eq_of_sublist {s t : String} (hsub : s.toList.Sublist t.toList)
    (hsame : sameIgnoringCase t s = true) : s = t := by
  have hlength : s.toList.length = t.toList.length := by
    have hupper := congrArg String.toList (sameIgnoringCase_iff.mp hsame)
    rw [toList_upperAscii, toList_upperAscii] at hupper
    have := congrArg List.length hupper
    rw [List.length_map, List.length_map] at this
    exact this.symm
  exact String.toList_inj.mp (hsub.eq_of_length hlength)

namespace Operation

theorem stripQuotes_sublist (cs : List Char) : (stripQuotes cs).Sublist cs := by
  have hend : (stripQuotes cs).reverse.Sublist (cs.dropWhile (· == Address.quote)).reverse := by
    rw [stripQuotes, List.reverse_reverse]
    exact List.dropWhile_sublist _
  exact (List.reverse_sublist.mp hend).trans (List.dropWhile_sublist _)

/-- A name is read without the blanks and then the quotes at its ends. -/
theorem toList_of_sheetName {arg name : String} (h : sheetName arg = .ok name) :
    name.toList = stripQuotes (Text.trimChars arg.toList) := by
  rw [sheetName] at h
  split at h
  · cases h
  next cs hcs =>
    rw [← Except.ok.inj h]
    exact String.toList_ofList

/-- What is read of a name is the name or shorter than it. -/
theorem eq_of_sheetName {arg name : String} (h : sheetName arg = .ok name)
    (hsame : Text.sameIgnoringCase arg name = true) : name = arg := by
  refine Text.eq_of_sublist ?_ hsame
  rw [toList_of_sheetName h]
  exact (stripQuotes_sublist _).trans (Text.trimChars_sublist _)

end Operation

/-! ## An undo of one command -/

namespace Editor

variable (ed : Editor) {w : Workbook} {undo back : Command}

/-- An undo of one command, which is no sort, succeeds exactly if that command takes effect. -/
theorem execute_undo_single {older : List (List Command)} (hundo : undo.isUndo = true)
    (hhistory : older ++ [[back]] <:+ ed.history.batches) (hback : ¬back.IsSort)
    (hw : w.sheets ≠ []) (P : Workbook → Prop) :
    ∃ outcome ed' w', ed.execute Workbook.host [undo] w = .ok (outcome, ed', w') ∧
      ((outcome.success = true ∧ P w') ↔
        ∃ inverse w₁, back.Runs Workbook.host ed.copyLimit w inverse w₁ ∧ P w₁) := by
  have hattempt : ∀ {inverse w₁}, back.Runs Workbook.host ed.copyLimit w inverse w₁ →
      attempt Workbook.host ed.copyLimit back w = (.done inverse, w₁) := by
    rintro inverse w₁ ⟨op, hdecode, hrun⟩
    exact attempt_of_done hdecode hrun
  rcases attempt_cases ed.copyLimit back hw with
    ⟨report, hstep⟩ | ⟨inverse, w', hstep, -, hrun⟩ | ⟨hsort, -⟩
  · obtain ⟨history, hpop, -⟩ := History.pop?_of_suffix hhistory
    have hbatch := runBatch_workbook_of_not_sort ed.copyLimit (List.forall_mem_singleton.mpr hback) hw
    rw [trace_cons hstep rfl] at hbatch
    refine ⟨{ executed := 0, errors := [report] }, { ed with history }, w, ?_, ?_⟩
    · rw [execute, if_pos (show isLoneUndo [undo] = true from hundo), Editor.undo, hpop]
      simp only [hbatch]
      rfl
    · constructor
      · rintro ⟨hsuccess, -⟩
        cases hsuccess
      · rintro ⟨inverse, w₁, hrun, -⟩
        rw [hattempt hrun] at hstep
        cases hstep
  · obtain ⟨outcome, history, hexecute, hsuccess, -⟩ :=
      ed.execute_undo hundo hhistory ⟨_, .single hrun⟩
    refine ⟨outcome, _, w', hexecute, ?_⟩
    constructor
    · rintro ⟨-, hP⟩
      exact ⟨inverse, w', hrun, hP⟩
    · rintro ⟨inverse', w₁, hrun', hP⟩
      rw [hattempt hrun'] at hstep
      cases hstep
      exact ⟨hsuccess, hP⟩
  · exact absurd hsort hback

end Editor

/-! ## Deleting and renaming -/

namespace Command

variable {limit : Option Nat} {w : Workbook} {name old new : String} {P : Workbook → Prop}

/-- Neither of the two commands that are recorded for a sheet is a sort. -/
theorem not_isSort_deleteSheet (name : String) : ¬(Command.plain .deleteSheet [name]).IsSort := by
  rintro ⟨op, hdecode, hsort⟩
  obtain ⟨read, -, hdecode⟩ := bind_eq_ok hdecode
  cases hdecode
  cases hsort

theorem not_isSort_renameSheet (old new : String) :
    ¬(Command.plain .renameSheet [old, new]).IsSort := by
  rintro ⟨op, hdecode, hsort⟩
  obtain ⟨readOld, -, hdecode⟩ := bind_eq_ok hdecode
  obtain ⟨readNew, -, hdecode⟩ := bind_eq_ok hdecode
  cases hdecode
  cases hsort

/-- A recorded deletion takes effect if its name is read as that of a sheet that can be deleted. -/
theorem runs_deleteSheet_iff :
    (∃ inverse w', (Command.plain .deleteSheet [name]).Runs Workbook.host limit w inverse w' ∧
        P w') ↔
      ∃ read, Operation.sheetName name = .ok read ∧ ∃ w', w.deleteSheet read = .ok w' ∧ P w' := by
  constructor
  · rintro ⟨inverse, w', ⟨op, hdecode, hrun⟩, hP⟩
    obtain ⟨read, hread, hdecode⟩ := bind_eq_ok hdecode
    cases hdecode
    obtain ⟨w₁, hdelete, hrun⟩ := act_of_run hrun
    cases hrun
    exact ⟨read, hread, w', hdelete, hP⟩
  · rintro ⟨read, hread, w', hdelete, hP⟩
    refine ⟨[], w', ⟨.deleteSheet read, ?_, ?_⟩, hP⟩
    · simp only [Command.plain, Command.ofKind, Operation.decode, Operation.ofVerb, hread]
      rfl
    · simp only [Operation.perform, Workbook.host, run_act_bind, hdelete]
      rfl

/-- A recorded renaming takes effect if both names are read, and the sheet found can get the new one. -/
theorem runs_renameSheet_iff :
    (∃ inverse w', (Command.plain .renameSheet [old, new]).Runs Workbook.host limit w inverse w' ∧
        P w') ↔
      ∃ readOld readNew, Operation.sheetName old = .ok readOld ∧
        Operation.sheetName new = .ok readNew ∧
        ∃ stored w', w.sheetName (some readOld) = .ok stored ∧
          w.renameSheet stored readNew = .ok w' ∧ P w' := by
  constructor
  · rintro ⟨inverse, w', ⟨op, hdecode, hrun⟩, hP⟩
    obtain ⟨readOld, hold, hdecode⟩ := bind_eq_ok hdecode
    obtain ⟨readNew, hnew, hdecode⟩ := bind_eq_ok hdecode
    cases hdecode
    obtain ⟨stored, hstored, hrun⟩ := ask_of_run hrun
    obtain ⟨w₁, hrename, hrun⟩ := act_of_run hrun
    cases hrun
    exact ⟨readOld, readNew, hold, hnew, stored, w', hstored, hrename, hP⟩
  · rintro ⟨readOld, readNew, hold, hnew, stored, w', hstored, hrename, hP⟩
    refine ⟨[.plain .renameSheet [readNew, stored]], w',
      ⟨.renameSheet (some readOld) readNew, ?_, ?_⟩, hP⟩
    · simp only [Command.plain, Command.ofKind, Operation.decode, Operation.ofVerb, hold, hnew]
      rfl
    · simp only [Operation.perform, Workbook.host, run_ask_bind, run_act_bind, hstored, hrename]
      rfl

end Command

namespace Workbook

variable {w : Workbook} {i : Nat} {s : Sheet} {name old new readOld readNew : String}
  {sheets : List Sheet}

/-- A deletion leaves some sheets just when it takes the first of its name out. -/
theorem exists_deleteSheet_iff :
    (∃ w', w.deleteSheet name = .ok w' ∧ w'.sheets = sheets) ↔
      ∃ i, w.sheetIndex? name = some i ∧ w.sheets.length ≠ 1 ∧ w.sheets.eraseIdx i = sheets := by
  constructor
  · rintro ⟨w', hdelete, hsheets⟩
    obtain ⟨i, active, hi, hlength, rfl⟩ := deleteSheet_eq_ok hdelete
    exact ⟨i, hi, hlength, hsheets⟩
  · rintro ⟨i, hi, hlength, hsheets⟩
    exact ⟨_, deleteSheet_eq hi hlength, hsheets⟩

/-- The sheet that was found has the name that is stored. -/
theorem exists_of_sheetName {old : Option String} {stored : String}
    (h : w.sheetName old = .ok stored) :
    ∃ i s, w.sheets[i]? = some s ∧ s.name = stored ∧
      ∀ name ∈ old, w.sheetIndex? name = some i := by
  cases old with
  | none =>
    obtain ⟨i, -, h⟩ := bind_eq_ok h
    obtain ⟨s, hs, h⟩ := bind_eq_ok h
    cases h
    refine ⟨i, s, sheetAt_eq_ok_iff.mp hs, rfl, ?_⟩
    rintro name ⟨⟩
  | some name =>
    obtain ⟨i, hi, h⟩ := bind_eq_ok h
    obtain ⟨s, hs, h⟩ := bind_eq_ok h
    cases h
    refine ⟨i, s, sheetAt_eq_ok_iff.mp hs, rfl, ?_⟩
    rintro _ ⟨⟩
    exact requireSheet_eq_ok_iff.mp (orFail_eq_ok_iff.mp hi)

/-- A renaming leaves some sheets just when it renames one that no other is in the way of. -/
theorem exists_renameSheet_iff (hw : w.NamesDistinct) :
    (∃ stored w', w.sheetName (some old) = .ok stored ∧ w.renameSheet stored new = .ok w' ∧
        w'.sheets = sheets) ↔
      ∃ i s, w.sheets[i]? = some s ∧ Text.sameIgnoringCase s.name old = true ∧
        (∀ j u, w.sheets[j]? = some u → Text.sameIgnoringCase u.name new = true → j = i) ∧
        w.sheets.set i { s with name := new } = sheets := by
  constructor
  · rintro ⟨stored, w', hstored, hrename, hsheets⟩
    obtain ⟨i, s, hs, rfl, hi⟩ := exists_of_sheetName hstored
    obtain ⟨t, ht, hsame⟩ := hw.sheetIndex?_eq_some_iff.mp (hi old rfl)
    obtain rfl : s = t := Option.some.inj (hs.symm.trans ht)
    rw [renameSheet_eq hw hs] at hrename
    split at hrename
    · cases hrename
    next hfree =>
      cases hrename
      rw [Bool.not_eq_true] at hfree
      exact ⟨i, s, hs, hsame, hw.any_sheetIndex?_eq_false_iff.mp hfree, hsheets⟩
  · rintro ⟨i, s, hs, hsame, hfree, hsheets⟩
    refine ⟨s.name, w.withSheet i { s with name := new }, ?_, ?_, hsheets⟩
    · rw [sheetName, requireSheet_eq_ok_iff.mpr (hw.sheetIndex?_eq_some_iff.mpr ⟨s, hs, hsame⟩)]
      show (do return (← w.sheetAt i).name) = _
      rw [sheetAt_eq_ok hs]
      rfl
    · rw [renameSheet_eq hw hs, hw.any_sheetIndex?_eq_false_iff.mpr hfree]
      rfl

/-! ## Taking the two back -/

/-- The name of a new sheet is read again and the sheet of that name deleted. -/
theorem deleteSheet_restores_iff (hw : w.NamesDistinct) (hfree : w.sheetIndex? name = none)
    {read : String} (hread : Operation.sheetName name = .ok read) :
    (∃ w', deleteSheet { w with sheets := w.sheets ++ [{ name }] } read = .ok w' ∧
        w'.sheets = w.sheets) ↔ w.sheets ≠ [] ∧ read = name := by
  have hdistinct := hw.append hfree
  rw [exists_deleteSheet_iff]
  constructor
  · rintro ⟨i, hi, hlength, herase⟩
    obtain ⟨t, ht, hsame⟩ := hdistinct.sheetIndex?_eq_some_iff.mp hi
    have hlast : i = w.sheets.length := by
      by_contra hne
      have hlt : i < w.sheets.length := by
        have := (List.getElem?_eq_some_iff.mp ht).1
        simp only [List.length_append, List.length_singleton] at this
        omega
      -- the new sheet is still there, but no former sheet has its name
      have hmem : ({ name } : Sheet) ∈ w.sheets := by
        rw [← herase]
        simp only
        rw [List.eraseIdx_append_of_lt_length hlt]
        simp
      rw [sheetIndex?, List.findIdx?_eq_none_iff] at hfree
      simpa using hfree _ hmem
    subst hlast
    rw [List.getElem?_concat_length] at ht
    cases ht
    refine ⟨?_, Operation.eq_of_sheetName hread hsame⟩
    rintro hnil
    simp [hnil] at hlength
  · rintro ⟨hne, rfl⟩
    have hlength := List.length_pos_of_ne_nil hne
    refine ⟨w.sheets.length, ?_, ?_, ?_⟩
    · exact hdistinct.sheetIndex?_eq_some_iff.mpr
        ⟨{ name := read }, by simp, Text.sameIgnoringCase_refl _⟩
    · simp only [List.length_append, List.length_singleton]
      omega
    · simp [List.eraseIdx_append_of_length_le]

/-- A sheet got the name that it had. Nothing was changed, so any sheet may be given its name once
more. -/
theorem renameSheet_restores_self_iff (hw : w.NamesDistinct) {read : String} :
    (∃ stored w', w.sheetName (some read) = .ok stored ∧ w.renameSheet stored read = .ok w' ∧
        w'.sheets = w.sheets) ↔ ∃ t ∈ w.sheets, read = t.name := by
  rw [exists_renameSheet_iff hw]
  constructor
  · rintro ⟨j, t, ht, -, -, hset⟩
    obtain ⟨hj, -⟩ := List.getElem?_eq_some_iff.mp ht
    have hget : (w.sheets.set j { t with name := read })[j]? = some t := by rw [hset, ht]
    rw [List.getElem?_set_self hj, Option.some.injEq] at hget
    exact ⟨t, List.mem_of_getElem? ht, congrArg Sheet.name hget⟩
  · rintro ⟨t, htmem, rfl⟩
    obtain ⟨j, ht⟩ := List.mem_iff_getElem?.mp htmem
    refine ⟨j, t, ht, Text.sameIgnoringCase_refl _, ?_, ?_⟩
    · intro k u hu hsame
      exact hw.eq_of_sameIgnoringCase hu ht hsame
    · exact congrArg Workbook.sheets (withSheet_self ht)

/-- A sheet got another name. Both names are read again, and it has to be this sheet that gets its
former name. -/
theorem renameSheet_restores_iff (hw : w.NamesDistinct) (hs : w.sheets[i]? = some s)
    (hfree : ∀ j u, w.sheets[j]? = some u → Text.sameIgnoringCase u.name new = true → j = i)
    (hname : new ≠ s.name) (hold : Operation.sheetName new = .ok readOld) :
    (∃ stored w', (w.withSheet i { s with name := new }).sheetName (some readOld) = .ok stored ∧
        (w.withSheet i { s with name := new }).renameSheet stored readNew = .ok w' ∧
        w'.sheets = w.sheets) ↔ readOld = new ∧ readNew = s.name := by
  obtain ⟨hi, -⟩ := List.getElem?_eq_some_iff.mp hs
  rw [exists_renameSheet_iff (hw.withSheet hfree)]
  constructor
  · rintro ⟨j, t, ht, hsame, -, hset⟩
    have hget : ((w.withSheet i { s with name := new }).sheets.set j
        { t with name := readNew })[i]? = some s := by rw [hset, hs]
    -- another sheet that is renamed leaves this one with its new name
    obtain rfl : j = i := by
      by_contra hne
      rw [List.getElem?_set_ne hne, getElem?_withSheet_self hs, Option.some.injEq] at hget
      exact hname (congrArg Sheet.name hget)
    rw [getElem?_withSheet_self hs] at ht
    cases ht
    rw [List.getElem?_set_self (by simpa using hi), Option.some.injEq] at hget
    exact ⟨Operation.eq_of_sheetName hold hsame, congrArg Sheet.name hget⟩
  · rintro ⟨rfl, rfl⟩
    refine ⟨i, _, getElem?_withSheet_self hs _, Text.sameIgnoringCase_refl _, ?_, ?_⟩
    · intro j u hu hsame
      by_contra hne
      rw [withSheet, List.getElem?_set_ne (Ne.symm hne)] at hu
      exact hne (hw.eq_of_sameIgnoringCase hu hs hsame)
    · have hback := congrArg Workbook.sheets (withSheet_self hs)
      rw [← withSheet_withSheet w i { s with name := readOld }] at hback
      exact hback

end Workbook

/-! ## Sheet commands -/

/-- Whether what is recorded for a sheet command is read as it is meant. A sheet is created where there
is another one, under a name that is read as it is; the new name and the old name of a sheet are both
read as they are, or they are the same name and what is read of it is the name of some sheet. -/
def Operation.ReadsBack (w : Workbook) : Operation → Prop
  | .createSheet name => w.sheets ≠ [] ∧ sheetName name = .ok name
  | .renameSheet old new =>
    ∃ stored, w.sheetName old = .ok stored ∧
      ((sheetName new = .ok new ∧ sheetName stored = .ok stored) ∨
        (new = stored ∧ ∃ s ∈ w.sheets, sheetName stored = .ok s.name))
  | _ => False

section

variable {limit : Option Nat} {w w₁ : Workbook} {inverse : List Command}

/-- What was recorded for a new sheet restores the sheets exactly if it is read as it is meant. -/
theorem Operation.createSheet_takenBack_iff {name : String} (hw : w.NamesDistinct)
    (hrun : ((createSheet name).perform Workbook.host limit).run w = (.ok inverse, w₁))
    (hinverse : inverse ≠ []) :
    ∃ back, inverse = [back] ∧ ¬back.IsSort ∧ w₁.sheets ≠ [] ∧
      ((∃ again w₂, back.Runs Workbook.host limit w₁ again w₂ ∧ w₂.sheets = w.sheets) ↔
        (createSheet name).ReadsBack w) := by
  rcases createSheet_of_run hrun with ⟨rfl, -⟩ | ⟨hfree, rfl, rfl⟩
  · exact absurd rfl hinverse
  refine ⟨_, rfl, Command.not_isSort_deleteSheet _, by simp, Command.runs_deleteSheet_iff.trans ?_⟩
  constructor
  · rintro ⟨read, hread, hback⟩
    obtain ⟨hne, rfl⟩ := (Workbook.deleteSheet_restores_iff hw hfree hread).mp hback
    exact ⟨hne, hread⟩
  · rintro ⟨hne, hread⟩
    exact ⟨name, hread, (Workbook.deleteSheet_restores_iff hw hfree hread).mpr ⟨hne, rfl⟩⟩

/-- The same for a sheet that was renamed. -/
theorem Operation.renameSheet_takenBack_iff {old : Option String} {new : String}
    (hw : w.NamesDistinct)
    (hrun : ((renameSheet old new).perform Workbook.host limit).run w = (.ok inverse, w₁)) :
    ∃ back, inverse = [back] ∧ ¬back.IsSort ∧ w₁.sheets ≠ [] ∧
      ((∃ again w₂, back.Runs Workbook.host limit w₁ again w₂ ∧ w₂.sheets = w.sheets) ↔
        (renameSheet old new).ReadsBack w) := by
  obtain ⟨stored, hstored, hrun⟩ := ask_of_run hrun
  obtain ⟨w', hrename, hrun⟩ := act_of_run hrun
  cases hrun
  obtain ⟨i, s, hs, rfl, -⟩ := Workbook.exists_of_sheetName hstored
  rw [renameSheet_eq hw hs] at hrename
  split at hrename
  · cases hrename
  next hany =>
  cases hrename
  rw [Bool.not_eq_true] at hany
  have hfree := hw.any_sheetIndex?_eq_false_iff.mp hany
  have hne : w.sheets ≠ [] := List.ne_nil_of_mem (List.mem_of_getElem? hs)
  refine ⟨_, rfl, Command.not_isSort_renameSheet _ _, Workbook.sheets_withSheet_ne_nil hne i _,
    Command.runs_renameSheet_iff.trans ?_⟩
  have hmeant : (renameSheet old new).ReadsBack w ↔
      (sheetName new = .ok new ∧ sheetName s.name = .ok s.name) ∨
        (new = s.name ∧ ∃ t ∈ w.sheets, sheetName s.name = .ok t.name) := by
    simp only [ReadsBack, hstored, Except.ok.injEq, exists_eq_left']
  rw [hmeant]
  by_cases hname : new = s.name
  · subst hname
    rw [Workbook.withSheet_self hs]
    constructor
    · rintro ⟨read, read', hread, hread', hback⟩
      obtain rfl : read = read' := Except.ok.inj (hread.symm.trans hread')
      obtain ⟨t, ht, rfl⟩ := (Workbook.renameSheet_restores_self_iff hw).mp hback
      exact Or.inr ⟨rfl, t, ht, hread⟩
    · intro hread
      obtain ⟨t, ht, hread⟩ : ∃ t ∈ w.sheets, sheetName s.name = .ok t.name := by
        rcases hread with ⟨hread, -⟩ | ⟨-, hread⟩
        · exact ⟨s, List.mem_of_getElem? hs, hread⟩
        · exact hread
      exact ⟨t.name, t.name, hread, hread,
        (Workbook.renameSheet_restores_self_iff hw).mpr ⟨t, ht, rfl⟩⟩
  · constructor
    · rintro ⟨readOld, readNew, hold, hnew, hback⟩
      obtain ⟨rfl, rfl⟩ := (Workbook.renameSheet_restores_iff hw hs hfree hname hold).mp hback
      exact Or.inl ⟨hold, hnew⟩
    · rintro (⟨hold, hnew⟩ | ⟨heq, -⟩)
      · exact ⟨new, s.name, hold, hnew,
          (Workbook.renameSheet_restores_iff hw hs hfree hname hold).mpr ⟨rfl, rfl⟩⟩
      · exact absurd heq hname

end

namespace Editor

variable (ed : Editor) {w w₁ : Workbook} {undo c back : Command} {op : Operation}
  {inverse : List Command}

/-- A command that records one other command, which is no sort, is executed, and an undo right after it
succeeds exactly if that one takes effect. -/
theorem execute_then_undo_single (hundo : undo.isUndo = true) (hdepth : 1 ≤ ed.history.depth)
    (hrun : c.Runs Workbook.host ed.copyLimit w [back] w₁) (hsort : ¬back.IsSort)
    (hw₁ : w₁.sheets ≠ []) (P : Workbook → Prop) :
    ∃ ed₁ outcome ed₂ w₂,
      ed.execute Workbook.host [c] w = .ok ({ executed := 1 }, ed₁, w₁) ∧
      ed₁.execute Workbook.host [undo] w₁ = .ok (outcome, ed₂, w₂) ∧
      ((outcome.success = true ∧ P w₂) ↔
        ∃ inverse w₂, back.Runs Workbook.host ed.copyLimit w₁ inverse w₂ ∧ P w₂) := by
  have hhistory := History.suffix_push (h := ed.history) List.nil_suffix hdepth
    (List.cons_ne_nil back [])
  obtain ⟨outcome, ed₂, w₂, hexecute, hiff⟩ :=
    execute_undo_single { ed with history := ed.history.push [back] } hundo hhistory hsort hw₁ P
  exact ⟨_, outcome, ed₂, w₂, ed.execute_of_runsThrough (.single hrun), hexecute, hiff⟩

/-- A command that creates or renames a sheet and has something to undo is executed, and an undo right
after it succeeds and restores the sheets exactly if the names that were recorded are read as they are
meant. -/
theorem undo_sheetCommand_iff (hundo : undo.isUndo = true) (hdepth : 1 ≤ ed.history.depth)
    (hw : w.NamesDistinct) (hdecode : Operation.decode c = .ok op)
    (hop : (∃ name, op = .createSheet name) ∨ ∃ old new, op = .renameSheet old new)
    (hrun : (op.perform Workbook.host ed.copyLimit).run w = (.ok inverse, w₁))
    (hinverse : inverse ≠ []) :
    ∃ ed₁ outcome ed₂ w₂,
      ed.execute Workbook.host [c] w = .ok ({ executed := 1 }, ed₁, w₁) ∧
      ed₁.execute Workbook.host [undo] w₁ = .ok (outcome, ed₂, w₂) ∧
      ((outcome.success = true ∧ w₂.sheets = w.sheets) ↔ op.ReadsBack w) := by
  obtain ⟨back, rfl, hsort, hw₁, hback⟩ : ∃ back, inverse = [back] ∧ ¬back.IsSort ∧ w₁.sheets ≠ [] ∧
      ((∃ again w₂, back.Runs Workbook.host ed.copyLimit w₁ again w₂ ∧ w₂.sheets = w.sheets) ↔
        op.ReadsBack w) := by
    rcases hop with ⟨name, rfl⟩ | ⟨old, new, rfl⟩
    · exact Operation.createSheet_takenBack_iff hw hrun hinverse
    · exact Operation.renameSheet_takenBack_iff hw hrun
  obtain ⟨ed₁, outcome, ed₂, w₂, hexecute, hundone, hiff⟩ :=
    ed.execute_then_undo_single hundo hdepth ⟨op, hdecode, hrun⟩ hsort hw₁
      fun w₂ => w₂.sheets = w.sheets
  exact ⟨ed₁, outcome, ed₂, w₂, hexecute, hundone, hiff.trans hback⟩

/-- A new sheet whose name has blanks within its quotes. -/
def createQuoted : Command :=
  .plain .createSheet ["' Data '"]

/-- The name of the new sheet is read back without its blanks. -/
theorem undo_sheetCommand_iff_createQuoted :
    ∃ ed₁ outcome ed₂ w₂,
      execute {} Workbook.host [createQuoted] .twoSheets =
        .ok ({ executed := 1 }, ed₁,
          { sheets := Workbook.twoSheets.sheets ++ [{ name := " Data " }] }) ∧
      ed₁.execute Workbook.host [.plain .undo []]
        { sheets := Workbook.twoSheets.sheets ++ [{ name := " Data " }] } =
          .ok (outcome, ed₂, w₂) ∧
      ((outcome.success = true ∧ w₂.sheets = Workbook.twoSheets.sheets) ↔
        (Operation.createSheet " Data ").ReadsBack .twoSheets) := by
  have hdecode : Operation.decode createQuoted = .ok (.createSheet " Data ") := by
    decide +kernel
  have hrun : ((Operation.createSheet " Data ").perform Workbook.host none).run .twoSheets =
      (.ok [.plain .deleteSheet [" Data "]],
        { sheets := Workbook.twoSheets.sheets ++ [{ name := " Data " }] }) := by
    show @Eq (Except StepFailure (List Command) × Workbook) _ _
    decide +kernel
  exact undo_sheetCommand_iff {} rfl (by decide) (by decide +kernel) hdecode (Or.inl ⟨_, rfl⟩) hrun
    (by simp)

/-- Its name is read as that of another sheet, which is deleted instead. -/
theorem undo_createQuoted_twoSheets :
    Workbook.twoSheets.NamesDistinct ∧
    (((Operation.createSheet " Data ").perform Workbook.host none).run .twoSheets).1 =
      .ok [.plain .deleteSheet [" Data "]] ∧
    ((execute {} Workbook.host [createQuoted] .twoSheets).bind fun (_, ed, w) =>
        ed.execute Workbook.host [.plain .undo []] w).map (fun r => (r.1.success, r.2.2.sheets)) =
      .ok (true, [.withFirstCell "Sheet1" "a", { name := " Data " }]) ∧
    Workbook.twoSheets.sheets = [.withFirstCell "Sheet1" "a", .withFirstCell "Data" "b"] := by
  refine ⟨?_, ?_, ?_, ?_⟩ <;> decide +kernel

end Editor

end SheetScript
