import SheetScript.Proofs.UndoneCharts

/-!
# Deleting charts

A chart to be deleted is searched for in lower case: first by name and title, then within the titles. The
document is then asked to delete a chart by its name, ignoring the case of ASCII letters. Where names are
distinct these two agree on the chart. To delete all charts, the names are listed once and deleted one by
one, each time the first chart of that name, which need not be the one that was listed.

- `Chart.IsNamed`, `Chart.Mentions`: what a term has in common with the charts it may mean.
- `FirstOf`: the first chart with a property, and the others in order.
- `findChart?_of_named`, `findChart?_of_mentioned`, `findChart?_of_unknown`: what is found.
- `runCommands_deleteChart`: the first chart that is named is deleted, or else the first that mentions the
  term, or else there is a report.
- `Editor.execute_deleteAllCharts`: the active sheet has no charts afterwards, whatever their names were.
-/

namespace SheetScript

/-! ## Texts within texts -/

/-- A text occurs in another one as a run of its characters. -/
theorem occursIn_iff {term cs : List Char} : occursIn term cs = true ↔ term <:+: cs := by
  induction cs with
  | nil => rw [occursIn, List.isEmpty_iff, List.infix_nil]
  | cons c cs ih => rw [occursIn, Bool.or_eq_true, ih, List.isPrefixOf_iff_prefix, List.infix_cons_iff]

namespace Text

theorem lowerChar_ne_nil (c : Char) : lowerChar c ≠ [] := by
  unfold lowerChar
  split
  · exact List.cons_ne_nil _ _
  split
  · exact List.cons_ne_nil _ _
  split
  · exact List.cons_ne_nil _ _
  · exact List.cons_ne_nil _ _

/-- No character is lost in lower case. -/
theorem lower_eq_empty_iff {s : String} : lower s = "" ↔ s = "" := by
  rw [lower, lowerChars, String.ofList_eq_empty_iff, ← String.toList_eq_nil_iff]
  cases s.toList with
  | nil => simp [lowerAfter]
  | cons c cs =>
    rw [lowerAfter]
    split
    · simp
    · simp [lowerChar_ne_nil]

end Text

/-! ## What a term means -/

/-- A search term as it is compared: without the blanks around it, in lower case. -/
def searchKey (term : String) : String :=
  Text.lower (Text.trim term)

namespace Chart

/-- The name or the title of a chart is the term, in any case. -/
def IsNamed (term : String) (c : Chart) : Prop :=
  Text.lower c.name = searchKey term ∨ Text.lower c.title = searchKey term

/-- The title of a chart contains the term, in any case. -/
def Mentions (term : String) (c : Chart) : Prop :=
  Text.lower c.title ≠ "" ∧ (searchKey term).toList <:+: (Text.lower c.title).toList

instance (term : String) (c : Chart) : Decidable (c.IsNamed term) :=
  inferInstanceAs (Decidable (_ ∨ _))

instance (term : String) (c : Chart) : Decidable (c.Mentions term) :=
  inferInstanceAs (Decidable (_ ∧ _))

variable {term : String} {c : Chart}

/-- A chart is named by a term that is its name or its title in lower case. -/
theorem isNamed_entry : c.entry.isNamed (searchKey term).toList = true ↔ c.IsNamed term := by
  rw [ChartEntry.isNamed, Bool.or_eq_true, beq_iff_eq, beq_iff_eq, IsNamed]
  simp only [← String.toList_inj, Text.lower, String.toList_ofList]
  rfl

/-- A chart mentions a term that occurs in its title, unless that is empty. -/
theorem mentions_entry : c.entry.mentions (searchKey term).toList = true ↔ c.Mentions term := by
  rw [ChartEntry.mentions, Bool.and_eq_true, bne_iff_ne, occursIn_iff, Mentions, Ne, Ne,
    Text.lower_eq_empty_iff, Text.lower, String.toList_ofList]
  rfl

end Chart

/-- `c` is the first of some charts with a property, and `rest` are the others in their order. -/
def FirstOf (P : Chart → Prop) (charts : List Chart) (c : Chart) (rest : List Chart) : Prop :=
  P c ∧ ∃ before after, charts = before ++ c :: after ∧ (∀ d ∈ before, ¬P d) ∧
    rest = before ++ after

section

variable {P : Chart → Prop} {charts rest : List Chart} {c : Chart} {term : String}

theorem FirstOf.mem (h : FirstOf P charts c rest) : c ∈ charts := by
  obtain ⟨-, before, after, rfl, -, -⟩ := h
  exact List.mem_append_right _ List.mem_cons_self

/-- Taking out the first of some charts leaves the others in their order. -/
theorem FirstOf.erase_eq (h : FirstOf P charts c rest) : charts.erase c = rest := by
  obtain ⟨hc, before, after, rfl, hbefore, rfl⟩ := h
  -- an equal chart before `c` would have the property as well
  rw [List.erase_append_right _ fun hmem => hbefore c hmem hc, List.erase_cons_head]

/-- A search finds the first chart with the property that it tests. -/
theorem exists_firstOf {p : Chart → Bool} (hp : ∀ c, p c = true ↔ P c) (h : ∃ c ∈ charts, P c) :
    ∃ c rest, charts.find? p = some c ∧ FirstOf P charts c rest := by
  obtain ⟨d, hd, hPd⟩ := h
  obtain ⟨c, hfound⟩ := Option.isSome_iff_exists.mp (List.find?_isSome.mpr ⟨d, hd, (hp d).mpr hPd⟩)
  obtain ⟨hc, before, after, hsplit, hbefore⟩ := List.find?_eq_some_iff_append.mp hfound
  refine ⟨c, before ++ after, hfound, (hp c).mp hc, before, after, hsplit, fun e he hPe => ?_, rfl⟩
  simpa [(hp e).mpr hPe] using hbefore e he

/-- A chart that is named is looked for first, and only then one that is mentioned. -/
theorem findChart?_entries (charts : List Chart) (term : String) :
    findChart? (charts.map Chart.entry) term =
      ((charts.find? fun c => c.entry.isNamed (searchKey term).toList).or
        (charts.find? fun c => c.entry.mentions (searchKey term).toList)).map Chart.entry := by
  have hkey : Text.lowerChars (Text.trimChars term.toList) = (searchKey term).toList := by
    rw [searchKey, Text.lower, String.toList_ofList, Text.toList_trim]
  rw [findChart?, hkey, List.find?_map, List.find?_map, Option.map_or, Option.or_eq_orElse]
  rfl

theorem find?_isNamed_eq_none (h : ∀ c ∈ charts, ¬c.IsNamed term) :
    (charts.find? fun c => c.entry.isNamed (searchKey term).toList) = none :=
  List.find?_eq_none.mpr fun c hc hnamed => h c hc (Chart.isNamed_entry.mp hnamed)

/-- A chart that is named by the term is found before any other one. -/
theorem findChart?_of_named (h : ∃ c ∈ charts, c.IsNamed term) :
    ∃ c rest, findChart? (charts.map Chart.entry) term = some c.entry ∧
      FirstOf (Chart.IsNamed term) charts c rest := by
  obtain ⟨c, rest, hfound, hfirst⟩ := exists_firstOf (fun c => Chart.isNamed_entry) h
  refine ⟨c, rest, ?_, hfirst⟩
  rw [findChart?_entries, hfound]
  rfl

/-- If no chart is named, the first one that mentions the term is found. -/
theorem findChart?_of_mentioned (hnone : ∀ c ∈ charts, ¬c.IsNamed term)
    (h : ∃ c ∈ charts, c.Mentions term) :
    ∃ c rest, findChart? (charts.map Chart.entry) term = some c.entry ∧
      FirstOf (Chart.Mentions term) charts c rest := by
  obtain ⟨c, rest, hfound, hfirst⟩ := exists_firstOf (fun c => Chart.mentions_entry) h
  refine ⟨c, rest, ?_, hfirst⟩
  rw [findChart?_entries, find?_isNamed_eq_none hnone, hfound]
  rfl

theorem findChart?_of_unknown (hnone : ∀ c ∈ charts, ¬c.IsNamed term)
    (h : ∀ c ∈ charts, ¬c.Mentions term) : findChart? (charts.map Chart.entry) term = none := by
  have hmentions : (charts.find? fun c => c.entry.mentions (searchKey term).toList) = none :=
    List.find?_eq_none.mpr fun c hc hmentioned => h c hc (Chart.mentions_entry.mp hmentioned)
  rw [findChart?_entries, find?_isNamed_eq_none hnone, hmentions]
  rfl

end

/-! ## The two commands -/

section

variable {limit : Option Nat} {w : Workbook} {s : Sheet} {c : Command} {term : String}

/-- A command that takes effect counts as executed, and the batch goes on. -/
theorem runCommands_of_perform {op : Operation} {inverse : List Command} {w' : Workbook}
    (hdecode : Operation.decode c = .ok op)
    (hrun : (op.perform Workbook.host limit).run w = (.ok inverse, w')) (cs : List Command)
    (p : Progress) :
    runCommands Workbook.host limit (c :: cs) p w =
      runCommands Workbook.host limit cs (p.done inverse) w' := by
  rw [runCommands_cons, attempt_of_done hdecode hrun]

/-- The chart that is found is deleted, and the batch goes on. -/
theorem runCommands_firstOf (hactive : w.activeSheet? = some s) (hdistinct : s.ChartsDistinct)
    (hdecode : Operation.decode c = .ok (.deleteChart term)) {P : Chart → Prop} {chart : Chart}
    {rest : List Chart} (hfound : findChart? (s.charts.map Chart.entry) term = some chart.entry)
    (hfirst : FirstOf P s.charts chart rest) (cs : List Command) (p : Progress) :
    runCommands Workbook.host limit (c :: cs) p w =
      runCommands Workbook.host limit cs (p.done [])
        (w.withSheet w.activeIndex { s with charts := rest }) := by
  -- the document looks for the name that was found, and with distinct names it meets that chart
  have hrun := Operation.perform_deleteChart hactive hdistinct hfirst.mem hfound limit
  rw [hfirst.erase_eq] at hrun
  exact runCommands_of_perform hdecode hrun cs p

/-- Without such a chart the command is reported and changes nothing. -/
theorem perform_deleteChart_of_unknown (hactive : w.activeSheet? = some s)
    (hfound : findChart? (s.charts.map Chart.entry) term = none) :
    ((Operation.deleteChart term).perform Workbook.host limit).run w = (.error (.noChart term), w) := by
  have hlist : w.charts = .ok (s.charts.map Chart.entry) := Workbook.charts_eq hactive
  rw [Operation.perform]
  show (call (Workbook.ask (·.charts)) >>= _).run w = _
  rw [run_ask_bind, hlist]
  simp only [hfound]
  rfl

/-- Where charts have distinct names, the first chart with the term for its name or title is deleted, or
else the first one whose title contains the term. The others stay in order and nothing else changes. If
there is no such chart, that is reported and nothing changes at all. -/
theorem runCommands_deleteChart (hactive : w.activeSheet? = some s) (hdistinct : s.ChartsDistinct)
    (hdecode : Operation.decode c = .ok (.deleteChart term)) (limit : Option Nat) (cs : List Command)
    (p : Progress) :
    ((∃ d ∈ s.charts, d.IsNamed term) →
      ∃ chart rest, FirstOf (Chart.IsNamed term) s.charts chart rest ∧
        runCommands Workbook.host limit (c :: cs) p w =
          runCommands Workbook.host limit cs (p.done [])
            (w.withSheet w.activeIndex { s with charts := rest })) ∧
    ((∀ d ∈ s.charts, ¬d.IsNamed term) → (∃ d ∈ s.charts, d.Mentions term) →
      ∃ chart rest, FirstOf (Chart.Mentions term) s.charts chart rest ∧
        runCommands Workbook.host limit (c :: cs) p w =
          runCommands Workbook.host limit cs (p.done [])
            (w.withSheet w.activeIndex { s with charts := rest })) ∧
    ((∀ d ∈ s.charts, ¬d.IsNamed term) → (∀ d ∈ s.charts, ¬d.Mentions term) →
      runCommands Workbook.host limit (c :: cs) p w =
        runCommands Workbook.host limit cs (p.report ("Chart not found: " ++ term)) w) := by
  refine ⟨fun hnamed => ?_, fun hnone hmentioned => ?_, fun hnone hunknown => ?_⟩
  · obtain ⟨chart, rest, hfound, hfirst⟩ := findChart?_of_named hnamed
    exact ⟨chart, rest, hfirst, runCommands_firstOf hactive hdistinct hdecode hfound hfirst cs p⟩
  · obtain ⟨chart, rest, hfound, hfirst⟩ := findChart?_of_mentioned hnone hmentioned
    exact ⟨chart, rest, hfirst, runCommands_firstOf hactive hdistinct hdecode hfound hfirst cs p⟩
  · have hfound := findChart?_of_unknown hnone hunknown
    rw [runCommands_cons,
      attempt_of_noChart hdecode (perform_deleteChart_of_unknown hactive hfound)]

/-- Charts about one subject, of which the second is called by it. -/
def salesCharts : List Chart :=
  [⟨"Chart 1", "Line", "A1:B2", "Quarterly Sales"⟩, ⟨"Chart 2", "Pie", "A1:B2", "SALES"⟩,
    ⟨"Chart 3", "Line", "A1:B2", "sales"⟩]

/-- A title comes before a part of a title that is listed earlier, and of two equal titles the first one
counts. -/
theorem runCommands_deleteChart_sales :
    ((∃ d ∈ salesCharts, d.IsNamed " Sales ") ∧
      ∃ chart rest, FirstOf (Chart.IsNamed " Sales ") salesCharts chart rest ∧
        runCommands Workbook.host none [.plain .deleteChart [" Sales "]] {}
            (Editor.withCharts salesCharts) =
          .ok (.open, { outcome := { executed := 1 } }, Editor.withCharts rest)) ∧
    (((∀ d ∈ salesCharts, ¬d.IsNamed "quarter") ∧ ∃ d ∈ salesCharts, d.Mentions "quarter") ∧
      ∃ chart rest, FirstOf (Chart.Mentions "quarter") salesCharts chart rest ∧
        runCommands Workbook.host none [.plain .deleteChart ["quarter"]] {}
            (Editor.withCharts salesCharts) =
          .ok (.open, { outcome := { executed := 1 } }, Editor.withCharts rest)) ∧
    ((∀ d ∈ salesCharts, ¬d.IsNamed "Costs") ∧ ∀ d ∈ salesCharts, ¬d.Mentions "Costs") ∧
      runCommands Workbook.host none [.plain .deleteChart ["Costs"]] {}
          (Editor.withCharts salesCharts) =
        .ok (.open, { outcome := { errors := ["Chart not found: Costs"] } },
          Editor.withCharts salesCharts) := by
  have hdistinct : Sheet.ChartsDistinct { name := "Sheet1", charts := salesCharts } := by
    unfold Sheet.ChartsDistinct
    decide +kernel
  have hnamed : ∃ d ∈ salesCharts, d.IsNamed " Sales " := by decide +kernel
  have hquarter : (∀ d ∈ salesCharts, ¬d.IsNamed "quarter") ∧
      ∃ d ∈ salesCharts, d.Mentions "quarter" := by decide +kernel
  have hcosts : (∀ d ∈ salesCharts, ¬d.IsNamed "Costs") ∧
      ∀ d ∈ salesCharts, ¬d.Mentions "Costs" := by decide +kernel
  have hdelete : ∀ term, Operation.decode (.plain .deleteChart [term]) = .ok (.deleteChart term) :=
    fun _ => rfl
  have hactive : (Editor.withCharts salesCharts).activeSheet? =
      some { name := "Sheet1", charts := salesCharts } := rfl
  refine ⟨⟨hnamed, ?_⟩, ⟨hquarter, ?_⟩, hcosts, ?_⟩
  · exact (runCommands_deleteChart hactive hdistinct (hdelete " Sales ") none [] {}).1 hnamed
  · exact (runCommands_deleteChart hactive hdistinct (hdelete "quarter") none [] {}).2.1
      hquarter.1 hquarter.2
  · exact (runCommands_deleteChart hactive hdistinct (hdelete "Costs") none [] {}).2.2
      hcosts.1 hcosts.2

end

/-! ## All charts -/

namespace Editor

variable (ed : Editor) {w : Workbook} {c : Command}

/-- One command deletes all charts of the active sheet, however many of them share a name. It counts once,
nothing is reported or recorded, and nothing else changes. -/
theorem execute_deleteAllCharts (hw : w.sheets ≠ [])
    (hdecode : Operation.decode c = .ok .deleteAllCharts) :
    ∃ s w', w.activeSheet? = some s ∧ w'.activeSheet? = some { s with charts := [] } ∧
      w' = w.withSheet w.activeIndex { s with charts := [] } ∧
      (∀ cs p, runCommands Workbook.host ed.copyLimit (c :: cs) p w =
        runCommands Workbook.host ed.copyLimit cs (p.done []) w') ∧
      ed.execute Workbook.host [c] w = .ok ({ executed := 1 }, ed, w') := by
  obtain ⟨s, hactive⟩ := Workbook.exists_activeSheet? hw
  have hrun := perform_deleteAllCharts hactive ed.copyLimit
  exact ⟨s, _, hactive, Workbook.activeSheet?_withSheet hactive _, rfl, runCommands_of_perform hdecode hrun,
    ed.execute_of_runsThrough (.single ⟨_, hdecode, hrun⟩)⟩

/-- Charts that share their names, in one case or in two. -/
def namesakes : List Chart :=
  [⟨"trend", "Line", "A1:B2", "First"⟩, ⟨"Trend", "Pie", "A1:B2", "Second"⟩,
    ⟨"Costs", "Pie", "A1:B2", "Third"⟩, ⟨"trend", "Line", "A1:B2", "Fourth"⟩]

theorem execute_deleteAllCharts_namesakes :
    (withCharts namesakes).sheets ≠ [] ∧
    execute {} Workbook.host [.plain .deleteAllCharts []] (withCharts namesakes) =
      .ok ({ executed := 1 }, {}, withCharts []) := by
  have hw : (withCharts namesakes).sheets ≠ [] := List.cons_ne_nil _ _
  have hdecode : Operation.decode (.plain .deleteAllCharts []) = .ok .deleteAllCharts := rfl
  obtain ⟨s, w', hactive, -, hw', -, hexecute⟩ := execute_deleteAllCharts {} hw hdecode
  obtain rfl : s = { name := "Sheet1", charts := namesakes } := (Option.some.inj hactive).symm
  rw [hw'] at hexecute
  exact ⟨hw, hexecute⟩

end Editor

end SheetScript
