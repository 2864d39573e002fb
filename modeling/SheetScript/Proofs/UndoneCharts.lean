import SheetScript.Proofs.Charts
import SheetScript.Proofs.Footprints
import SheetScript.Proofs.Undo
import SheetScript.Proofs.Validity

/-!
# Undoing a new chart

A new chart has an automatic name that is not taken, and what is recorded for it is to delete the chart
of that name. Charts to be deleted are searched for by name and by title, in lower case. No other chart
has the name, in lower case either, but one may have it for its title, and it comes first.

- `Text.sameIgnoringCase_of_lowerChars`: an ASCII text is, with few exceptions, the lower-case form of
  ASCII texts only.
- `Sheet.isNamed_freshChartName`: so other charts are taken for a new one by their titles only.
- `Operation.perform_deleteChart`: the chart that is found is deleted, and no other one.
- `Sheet.chartsAfterUndo`: the charts after a new one was undone.
- `Editor.undo_createChart_iff`: they are the former ones exactly if the new name is no other chart's
  title.
-/

namespace SheetScript

/-! ## Lower case and ASCII -/

namespace Text

variable {c d : Char} {before cs ds : List Char}

/-- An ASCII character that is the lower-case form of ASCII characters only: the dotted capital I starts
with `i` in lower case, and the Kelvin sign is a `k`. The null character is what a code point becomes that
is none. -/
def IsPlain (c : Char) : Prop :=
  0 < c.toNat ∧ c.toNat < 128 ∧ c ≠ 'i' ∧ c ≠ 'k'

instance (c : Char) : Decidable (IsPlain c) :=
  inferInstanceAs (Decidable (_ ∧ _))

/-- No offset leads from beyond ASCII into ASCII, but for the Kelvin sign. -/
theorem lowerRuns_offset : ∀ r ∈ lowerRuns,
    128 ≤ r.first + r.offset ∨ (r.first = r.last ∧ r.first + r.offset = 'k'.toNat) := by
  decide +kernel

/-- A character past ASCII does not become plain in lower case. -/
theorem exists_not_isPlain_lowerChar (h : 128 ≤ c.toNat) : ∃ d ∈ lowerChar c, ¬IsPlain d := by
  rw [lowerChar, if_neg (by omega)]
  split
  · exact ⟨'i', List.mem_cons_self, fun hplain => hplain.2.2.1 rfl⟩
  · split
    next r hr =>
      refine ⟨_, List.mem_singleton_self _, ?_⟩
      have hfound := List.find?_some hr
      simp only [Bool.and_eq_true, decide_eq_true_eq] at hfound
      rcases lowerRuns_offset r (List.mem_of_find?_eq_some hr) with hbeyond | ⟨hone, hkelvin⟩
      · rintro ⟨hpos, hlt, -⟩
        have hcode := Char.toNat_ofNat (c.toNat + r.offset).toNat
        split at hcode <;> omega
      · have hk : (c.toNat + r.offset).toNat = 'k'.toNat := by omega
        rw [hk, Char.ofNat_toNat]
        exact fun hplain => hplain.2.2.2 rfl
    next => exact ⟨c, List.mem_singleton_self c, fun hplain => absurd hplain.2.1 (by omega)⟩

theorem lowerChar_of_lt (h : c.toNat < 128) : lowerChar c = [c.toLower] := by
  rw [lowerChar, if_pos h]

/-- ASCII texts are put into lower case letter by letter. -/
theorem lowerAfter_of_forall (h : ∀ c ∈ cs, c.toNat < 128) :
    lowerAfter before cs = cs.map Char.toLower := by
  induction cs generalizing before with
  | nil => rfl
  | cons c cs ih =>
    obtain ⟨hc, hcs⟩ := List.forall_mem_cons.mp h
    rw [lowerAfter, if_neg (by omega), lowerChar_of_lt hc, ih hcs]
    rfl

/-- Only an ASCII text is plain in lower case. -/
theorem toNat_lt_of_lowerAfter (h : ∀ d ∈ lowerAfter before cs, IsPlain d) :
    ∀ c ∈ cs, c.toNat < 128 := by
  induction cs generalizing before with
  | nil => exact List.forall_mem_nil _
  | cons c cs ih =>
    rw [lowerAfter, List.forall_mem_append] at h
    obtain ⟨hc, hcs⟩ := h
    refine List.forall_mem_cons.mpr ⟨?_, ih hcs⟩
    by_contra hge
    rw [Nat.not_lt] at hge
    split at hc
    next =>
      split at hc
      · exact absurd (hc _ (List.mem_singleton_self _)).2.1 (by decide)
      · exact absurd (hc _ (List.mem_singleton_self _)).2.1 (by decide)
    next =>
      obtain ⟨d, hd, hplain⟩ := exists_not_isPlain_lowerChar hge
      exact hplain (hc d hd)

/-- A text that is the same in lower case as a plain ASCII text differs from it in the case of ASCII
letters only. -/
theorem sameIgnoringCase_of_lowerChars {s t : String}
    (ht : ∀ c ∈ t.toList, c.toNat < 128 ∧ IsPlain c.toLower)
    (h : lowerChars s.toList = lowerChars t.toList) : sameIgnoringCase s t = true := by
  have hlower : lowerChars t.toList = t.toList.map Char.toLower :=
    lowerAfter_of_forall fun c hc => (ht c hc).1
  have hs : ∀ c ∈ s.toList, c.toNat < 128 := by
    have hplain : ∀ d ∈ lowerAfter [] s.toList, IsPlain d := by
      rw [← lowerChars, h, hlower]
      exact List.forall_mem_map.mpr fun c hc => (ht c hc).2
    exact toNat_lt_of_lowerAfter hplain
  have hmap : s.toList.map Char.toLower = t.toList.map Char.toLower := by
    rw [← hlower, ← h]
    exact (lowerAfter_of_forall hs).symm
  have hupper := congrArg (List.map Char.toUpper) hmap
  have hfold : Char.toUpper ∘ Char.toLower = Char.toUpper :=
    funext Char.toUpper_toLower_eq_toUpper
  rw [List.map_map, List.map_map, hfold] at hupper
  exact beq_iff_eq.mpr hupper

end Text

/-! ## New names -/

/-- Whether a chart has a title, in any case. -/
def Chart.hasTitle (title : String) (c : Chart) : Bool :=
  Text.lower c.title == Text.lower title

/-- A chart as it is searched for. -/
def Chart.entry (c : Chart) : ChartEntry :=
  ⟨c.name, c.title⟩

namespace Sheet

variable {s : Sheet} {c : Chart} {k : Nat}

/-- Automatic names are made of a few letters and of digits. -/
theorem mem_chartName {d : Char} (h : d ∈ (chartName k).toList) :
    d ∈ "Chart ".toList ∨ d.isDigit = true := by
  rw [chartName, String.toList_append, List.mem_append, Nat.toList_repr] at h
  exact h.imp_right (Nat.isDigit_of_mem_toDigits (by decide) (by decide))

/-- An automatic name is plain in lower case. -/
theorem isPlain_chartName :
    ∀ d ∈ (chartName k).toList, d.toNat < 128 ∧ Text.IsPlain d.toLower := by
  intro d hd
  rcases mem_chartName hd with hd | hd
  · have hletters : "Chart ".toList.all fun d => d.toNat < 128 ∧ Text.IsPlain d.toLower := by
      decide
    simpa using List.all_eq_true.mp hletters d hd
  · have hupper : ¬d.isUpper = true := fun hupper => by
      have halpha : d.isAlpha = true := by simp [Char.isAlpha, hupper]
      rw [Text.isAlpha_of_isDigit hd] at halpha
      cases halpha
    obtain ⟨hfirst, hlast⟩ := Text.isDigit_iff.mp hd
    rw [Char.toLower_eq_of_not_isUpper hupper]
    refine ⟨by omega, by omega, by omega, ?_, ?_⟩
    · rintro rfl
      exact absurd hlast (by decide)
    · rintro rfl
      exact absurd hlast (by decide)

theorem trimChars_chartName (k : Nat) :
    Text.trimChars (chartName k).toList = (chartName k).toList := by
  have hdigits : ∀ d ∈ Nat.toDigits 10 k, Text.isBlank d = false := fun d hd =>
    Text.isBlank_of_isAlphanum (Grid.isAlphanum_of_mem_toDigits hd)
  obtain ⟨d, hd⟩ := List.exists_mem_of_ne_nil _ (Nat.toDigits_ne_nil (n := k) (b := 10))
  have hend : Text.trimEnd (Nat.toDigits 10 k) = Nat.toDigits 10 k :=
    Text.trimEnd_of_trimChars (Text.trimChars_of_forall hdigits)
  rw [chartName, String.toList_append, Nat.toList_repr, Text.trimChars,
    show "Chart ".toList = 'C' :: "hart ".toList from rfl, List.cons_append,
    Text.trimStart_of_head (by decide), ← List.cons_append,
    Text.trimEnd_append ⟨d, hd, hdigits d hd⟩, hend]

/-- No chart has a name that would be taken for a new one, so only titles count. -/
theorem isNamed_freshChartName (hc : c ∈ s.charts) :
    c.entry.isNamed (Text.lowerChars s.freshChartName.toList) = c.hasTitle s.freshChartName := by
  obtain ⟨k, hk, -⟩ := s.exists_freshChartName
  have hname : Text.lowerChars c.name.toList ≠ Text.lowerChars s.freshChartName.toList := by
    intro h
    have htaken : s.hasChart s.freshChartName = true := by
      refine List.any_eq_true.mpr ⟨c, hc, Text.sameIgnoringCase_of_lowerChars ?_ h⟩
      rw [hk]
      exact isPlain_chartName
    rw [hasChart_freshChartName] at htaken
    cases htaken
  rw [ChartEntry.isNamed, Chart.hasTitle, Chart.entry, beq_false_of_ne hname, Bool.false_or,
    Bool.eq_iff_iff, beq_iff_eq, beq_iff_eq, Text.lower, Text.lower, String.ofList_inj]

/-- The new chart is found under its name, unless that is the title of another one. -/
theorem findChart?_freshChartName {new : Chart} (hnew : new.name = s.freshChartName) :
    findChart? ((s.charts ++ [new]).map Chart.entry) new.name =
      some ((s.charts.find? (·.hasTitle new.name)).getD new).entry := by
  have htrim : Text.trimChars new.name.toList = new.name.toList := by
    obtain ⟨k, hk, -⟩ := s.exists_freshChartName
    rw [hnew, hk, trimChars_chartName]
  have hothers : s.charts.find? (ChartEntry.isNamed (Text.lowerChars new.name.toList) ∘ Chart.entry) =
      s.charts.find? (·.hasTitle new.name) := by
    refine List.find?_congr fun c hc => ?_
    rw [hnew]
    exact isNamed_freshChartName hc
  have hself : (ChartEntry.isNamed (Text.lowerChars new.name.toList) ∘ Chart.entry) new = true := by
    simp [ChartEntry.isNamed, Chart.entry]
  rw [findChart?, htrim]
  simp only [List.find?_map, List.find?_append, hothers, List.find?_singleton, hself]
  cases s.charts.find? (·.hasTitle new.name) <;> rfl

/-! ## Deleted charts -/

/-- Where names are distinct, a chart is erased by its name. -/
theorem ChartsDistinct.eraseChart (h : s.ChartsDistinct) (hc : c ∈ s.charts) :
    (s.eraseChart c.name).charts = s.charts.erase c := by
  obtain ⟨before, after, hsplit⟩ := List.append_of_mem hc
  rw [ChartsDistinct, hsplit, List.pairwise_append] at h
  have hbefore : ∀ d ∈ before, Text.sameIgnoringCase d.name c.name = false :=
    fun d hd => h.2.2 d hd c List.mem_cons_self
  have hmem : c ∉ before := fun hmem => by simpa using hbefore c hmem
  calc (s.eraseChart c.name).charts
      = (before ++ c :: after).eraseP fun d => Text.sameIgnoringCase d.name c.name := by
        rw [Sheet.eraseChart, hsplit]
    _ = before ++ after := by
        rw [List.eraseP_append_right _ (by simpa using hbefore)]
        simp
    _ = s.charts.erase c := by
        rw [hsplit, List.erase_append_right _ hmem, List.erase_cons_head]

/-- The charts of a sheet after a chart was created on it and an undo deleted the chart found under its
name. -/
def chartsAfterUndo (s : Sheet) (new : Chart) : List Chart :=
  match s.charts.find? (·.hasTitle new.name) with
  | none => s.charts
  | some c => s.charts.erase c ++ [new]

section

variable {new : Chart}

/-- A chart with a name that is free is not there yet. -/
theorem notMem_charts (hnew : s.hasChart new.name = false) : new ∉ s.charts := by
  intro hmem
  rw [hasChart, List.any_eq_false] at hnew
  exact hnew new hmem (Text.sameIgnoringCase_refl _)

/-- What an undo deletes is the first chart with that title, or else the new one. -/
theorem erase_found (hnew : s.hasChart new.name = false) :
    (s.charts ++ [new]).erase ((s.charts.find? (·.hasTitle new.name)).getD new) =
      s.chartsAfterUndo new := by
  rw [chartsAfterUndo]
  cases hfound : s.charts.find? (·.hasTitle new.name) with
  | none =>
    rw [Option.getD_none, List.erase_append_right _ (notMem_charts hnew), List.erase_cons_head,
      List.append_nil]
  | some c =>
    rw [Option.getD_some, List.erase_append_left _ (List.mem_of_find?_eq_some hfound)]

/-- The charts are what they were unless one of them has the new name for its title. -/
theorem chartsAfterUndo_eq_self_iff (hnew : s.hasChart new.name = false) :
    s.chartsAfterUndo new = s.charts ↔
      ∀ c ∈ s.charts, Text.lower c.title ≠ Text.lower new.name := by
  have htitle : (∀ c ∈ s.charts, Text.lower c.title ≠ Text.lower new.name) ↔
      s.charts.find? (·.hasTitle new.name) = none := by
    simp [Chart.hasTitle]
  rw [htitle, chartsAfterUndo]
  cases s.charts.find? (·.hasTitle new.name) with
  | none => simp
  | some c =>
    have hne : s.charts.erase c ++ [new] ≠ s.charts := fun heq =>
      notMem_charts hnew (heq ▸ List.mem_append_right _ (List.mem_singleton_self new))
    simpa using hne

end

end Sheet

/-! ## The two commands -/

namespace Operation

variable {limit : Option Nat} {w w₁ : Workbook} {s : Sheet} {inverse : List Command}

/-- The chart that is found is deleted, and no other one. -/
theorem perform_deleteChart (h : w.activeSheet? = some s) (hdistinct : s.ChartsDistinct)
    {term : String} {c : Chart} (hc : c ∈ s.charts)
    (hfound : findChart? (s.charts.map Chart.entry) term = some c.entry) (limit : Option Nat) :
    ((deleteChart term).perform Workbook.host limit).run w =
      (.ok [], w.withSheet w.activeIndex { s with charts := s.charts.erase c }) := by
  have hlist : w.charts = .ok (s.charts.map Chart.entry) := Workbook.charts_eq h
  have hdelete : w.deleteChart c.entry.name = .ok (w.withSheet w.activeIndex (s.eraseChart c.name)) :=
    Workbook.deleteChart_eq h (List.mem_map_of_mem hc)
  rw [perform]
  show (call (Workbook.ask (·.charts)) >>= _).run w = _
  rw [run_ask_bind, hlist]
  simp only [hfound]
  show (call (Workbook.act (·.deleteChart c.entry.name)) >>= _).run w = _
  rw [run_act_bind, hdelete, ← hdistinct.eraseChart hc]
  rfl

/-- A new chart is listed last under an automatic name, and that name is recorded. -/
theorem createChart_of_run (h : w.activeSheet? = some s) {kind title : String}
    {source : Grid.Address}
    (hrun : ((createChart kind source title).perform Workbook.host limit).run w =
      (.ok inverse, w₁)) :
    inverse = [.plain .deleteChart [s.freshChartName]] ∧
      w₁ = w.withSheet w.activeIndex
        { s with charts := s.charts ++ [⟨s.freshChartName, kind, source.text, title⟩] } := by
  obtain ⟨name, w', hadd, hrun⟩ := actWith_of_run hrun
  cases hrun
  obtain ⟨_, hnext, hadd⟩ := bind_eq_ok hadd
  obtain ⟨w'', hchange, hadd⟩ := bind_eq_ok hadd
  cases hadd
  obtain ⟨_, -, hnext⟩ := bind_eq_ok hnext
  rw [Workbook.activeSheet_eq_ok h] at hnext
  cases hnext
  rw [Workbook.changeActive_eq h] at hchange
  cases hchange
  exact ⟨rfl, rfl⟩

/-- What is recorded for a new chart can be carried out right after. -/
theorem leadsBack_newChart (h : w.activeSheet? = some s) (hdistinct : s.ChartsDistinct) {new : Chart}
    (hnew : new.name = s.freshChartName) :
    LeadsBack limit [.plain .deleteChart [new.name]]
      (w.withSheet w.activeIndex { s with charts := s.charts ++ [new] })
      (w.withSheet w.activeIndex { s with charts := s.chartsAfterUndo new }) := by
  have hfree : s.hasChart new.name = false := hnew ▸ s.hasChart_freshChartName
  have hmem : (s.charts.find? (·.hasTitle new.name)).getD new ∈ s.charts ++ [new] := by
    cases hfound : s.charts.find? (·.hasTitle new.name) with
    | none => exact List.mem_append_right _ (List.mem_singleton_self new)
    | some c => exact List.mem_append_left _ (List.mem_of_find?_eq_some hfound)
  have hrun := perform_deleteChart (Workbook.activeSheet?_withSheet h _) (hdistinct.concat hfree) hmem
    (Sheet.findChart?_freshChartName hnew) limit
  rw [Workbook.activeIndex_withSheet, Workbook.withSheet_withSheet, Sheet.erase_found hfree] at hrun
  exact .single rfl ⟨[], hrun⟩

end Operation

namespace Editor

variable (ed : Editor) {w w₁ : Workbook} {s : Sheet} {undo c : Command} {inverse : List Command}

/-- A command that creates a chart is executed, and an undo right after it succeeds. It deletes the chart
that is found under the new name, so the charts are what they were exactly if no other one has that name
for its title. -/
theorem undo_createChart_iff (hundo : undo.isUndo = true) (hdepth : 1 ≤ ed.history.depth)
    (hactive : w.activeSheet? = some s) (hdistinct : s.ChartsDistinct) {kind title : String}
    {source : Grid.Address} (hdecode : Operation.decode c = .ok (.createChart kind source title))
    (hrun : ((Operation.createChart kind source title).perform Workbook.host ed.copyLimit).run w =
      (.ok inverse, w₁)) :
    ∃ ed₁ outcome ed₂ w₂,
      ed.execute Workbook.host [c] w = .ok ({ executed := 1 }, ed₁, w₁) ∧
      ed₁.execute Workbook.host [undo] w₁ = .ok (outcome, ed₂, w₂) ∧ outcome.success = true ∧
      w₂ = w.withSheet w.activeIndex
        { s with charts := s.chartsAfterUndo ⟨s.freshChartName, kind, source.text, title⟩ } ∧
      (w₂.activeSheet?.map Sheet.charts = some s.charts ↔
        ∀ c ∈ s.charts, Text.lower c.title ≠ Text.lower s.freshChartName) := by
  obtain ⟨rfl, rfl⟩ := Operation.createChart_of_run hactive hrun
  set new : Chart := ⟨s.freshChartName, kind, source.text, title⟩
  have hback : LeadsBack ed.copyLimit [.plain .deleteChart [new.name]] _ _ :=
    Operation.leadsBack_newChart hactive hdistinct rfl
  obtain ⟨ed₁, outcome, ed₂, hexecute, hundone, hsuccess⟩ :=
    ed.execute_then_undo hundo hdepth (.single ⟨_, hdecode, hrun⟩) (List.cons_ne_nil _ _) hback
  refine ⟨ed₁, outcome, ed₂, _, hexecute, hundone, hsuccess, rfl, ?_⟩
  rw [Workbook.activeSheet?_withSheet hactive, Option.map_some, Option.some.injEq]
  exact Sheet.chartsAfterUndo_eq_self_iff s.hasChart_freshChartName

/-- A chart whose title is the automatic name of the next one. -/
def titledChart : Chart :=
  ⟨"Chart 1", "Line", "A1:B2", "Chart 2"⟩

/-- The chart created next to it. -/
def salesChart : Chart :=
  ⟨"Chart 2", "Pie", "A1:B2", "Sales"⟩

/-- A workbook with some charts on its only sheet. -/
def withCharts (charts : List Chart) : Workbook where
  sheets := [{ name := "Sheet1", charts }]

/-- The command that creates the chart. -/
def createSales : Command :=
  .plain .createChart ["Pie", "A1:B2", "Sales"]

/-- A chart whose title is the automatic name of the new one is deleted instead. -/
theorem undo_createChart_iff_titledChart :
    ∃ ed₁ outcome ed₂ w₂,
      execute {} Workbook.host [createSales] (withCharts [titledChart]) =
        .ok ({ executed := 1 }, ed₁, withCharts [titledChart, salesChart]) ∧
      ed₁.execute Workbook.host [.plain .undo []] (withCharts [titledChart, salesChart]) =
        .ok (outcome, ed₂, w₂) ∧ outcome.success = true ∧
      w₂ = withCharts [salesChart] ∧
      (w₂.activeSheet?.map Sheet.charts = some [titledChart] ↔
        ∀ c ∈ [titledChart], Text.lower c.title ≠ Text.lower "Chart 2") := by
  have hdecode : Operation.decode createSales = .ok (.createChart "Pie" ⟨none, "A1:B2"⟩ "Sales") :=
    rfl
  have hrun : ((Operation.createChart "Pie" ⟨none, "A1:B2"⟩ "Sales").perform Workbook.host none).run
      (withCharts [titledChart]) =
        (.ok [.plain .deleteChart ["Chart 2"]], withCharts [titledChart, salesChart]) := rfl
  have hdistinct : Sheet.ChartsDistinct { name := "Sheet1", charts := [titledChart] } :=
    List.pairwise_singleton _ _
  have hname : Sheet.freshChartName { name := "Sheet1", charts := [titledChart] } = "Chart 2" :=
    rfl
  obtain ⟨ed₁, outcome, ed₂, w₂, hexecute, hundone, hsuccess, hw₂, hiff⟩ :=
    undo_createChart_iff {} (show (Command.plain .undo []).isUndo = true from rfl) (by decide) rfl
      hdistinct hdecode hrun
  rw [hname] at hiff
  refine ⟨ed₁, outcome, ed₂, w₂, hexecute, hundone, hsuccess, ?_, hiff⟩
  rw [hw₂]
  decide

/-- The other chart is deleted, and the new one stays. -/
theorem undo_createSales_titledChart :
    (∀ s ∈ (withCharts [titledChart]).sheets, s.ChartsDistinct) ∧
    (execute {} Workbook.host [createSales] (withCharts [titledChart])).map
        (fun r => (r.1, r.2.2)) =
      .ok ({ executed := 1 }, withCharts [titledChart, salesChart]) ∧
    ((execute {} Workbook.host [createSales] (withCharts [titledChart])).bind fun (_, ed, w) =>
        ed.execute Workbook.host [.plain .undo []] w).map (fun r => (r.1.success, r.2.2)) =
      .ok (true, withCharts [salesChart]) := by
  refine ⟨List.forall_mem_singleton.mpr (List.pairwise_singleton _ _), ?_, ?_⟩ <;> decide

end Editor

end SheetScript
