import Mathlib
import SheetScript.Proofs.Batches
import SheetScript.Proofs.Workbooks

/-!
# Charts of a sheet

Charts are found by their names, ignoring the case of ASCII letters, so what matters about a chart is
its name in upper case.

- `Sheet.exists_freshChartName`: the automatic name of a new chart has the first number that is free.
- `Sheet.NameSearch`: the search for it, without a bound; `Sheet.freshChartName_least`: where it ends.
- `Workbook.deleteChart_eq`: a chart that is listed can be deleted, and then its name is listed once
  less.
- `perform_deleteAllCharts`: all charts can be deleted one after another.
-/

namespace SheetScript

open Text

namespace Sheet

variable {s : Sheet}

/-- The names of the charts in upper case. -/
def chartKeys (s : Sheet) : List String :=
  s.charts.map fun c => upperAscii c.name

/-- A chart is found by its name in upper case. -/
theorem hasChart_iff {name : String} : s.hasChart name = true ↔ upperAscii name ∈ s.chartKeys := by
  simp only [hasChart, chartKeys, List.any_eq_true, List.mem_map, sameIgnoringCase_iff]

/-! ## New names -/

/-- Automatic names of different numbers are different in upper case. -/
theorem upperAscii_chartName_injective :
    Function.Injective fun n => upperAscii (chartName n) := by
  have hdigits : ∀ n : Nat, n.repr.toList.map Char.toUpper = n.repr.toList := by
    intro n
    rw [Nat.toList_repr]
    refine (List.map_congr_left fun c hc => ?_).trans (List.map_id _)
    exact toUpper_of_isDigit (Nat.isDigit_of_mem_toDigits (by decide) (by decide) hc)
  intro m n h
  have htext : m.repr = n.repr := by
    have hlist := congrArg String.toList h
    simp only [chartName, toList_upperAscii, String.toList_append, List.map_append, hdigits,
      List.append_cancel_left_eq] at hlist
    exact String.toList_inj.mp hlist
  have hread := digits?_repr m
  rw [htext, digits?_repr n] at hread
  exact (Option.some.inj hread).symm

/-- The charts cannot have all of the names, which are more than they. -/
theorem exists_free_chartName (s : Sheet) :
    ∃ k, 1 ≤ k ∧ k ≤ 1 + s.charts.length ∧ s.hasChart (chartName k) = false := by
  by_contra hnone
  push Not at hnone
  have hsub : (List.range' 1 (s.charts.length + 1)).map (fun n => upperAscii (chartName n)) ⊆
      s.chartKeys := by
    intro key hkey
    obtain ⟨k, hk, rfl⟩ := List.mem_map.mp hkey
    rw [List.mem_range'_1] at hk
    exact hasChart_iff.mp (by simpa using hnone k (by omega) (by omega))
  have hnodup : ((List.range' 1 (s.charts.length + 1)).map fun n =>
      upperAscii (chartName n)).Nodup :=
    List.Nodup.map upperAscii_chartName_injective List.nodup_range'
  have hlength := (hnodup.subperm hsub).length_le
  simp only [chartKeys, List.length_map, List.length_range'] at hlength
  omega

/-- The search comes to the first free name, if that is among the names that are tried. -/
theorem freshChartNameFrom_eq {tries n k : Nat} (hn : n ≤ k) (hk : k ≤ n + tries)
    (htaken : ∀ m, n ≤ m → m < k → s.hasChart (chartName m) = true)
    (hfree : s.hasChart (chartName k) = false) :
    s.freshChartNameFrom tries n = chartName k := by
  induction tries generalizing n with
  | zero =>
    obtain rfl : n = k := by omega
    rfl
  | succ tries ih =>
    rw [freshChartNameFrom]
    rcases Nat.eq_or_lt_of_le hn with rfl | hlt
    · rw [if_neg (by simp [hfree])]
    · rw [if_pos (htaken n (Nat.le_refl n) hlt)]
      exact ih hlt (by omega) fun m hm => htaken m (by omega)

/-- The automatic name of a new chart has the first number whose name is not taken. -/
theorem exists_freshChartName (s : Sheet) :
    ∃ k, s.freshChartName = chartName k ∧ (1 ≤ k ∧ k ≤ s.charts.length + 1) ∧
      s.hasChart (chartName k) = false ∧
      ∀ m, 1 ≤ m → m < k → s.hasChart (chartName m) = true := by
  have hexists := s.exists_free_chartName
  obtain ⟨hk, hle, hfree⟩ := Nat.find_spec hexists
  have htaken : ∀ m, 1 ≤ m → m < Nat.find hexists → s.hasChart (chartName m) = true := by
    intro m hm hlt
    have hmin := Nat.find_min hexists hlt
    by_contra hm'
    exact hmin ⟨hm, by omega, by simpa using hm'⟩
  refine ⟨Nat.find hexists, ?_, ⟨hk, by omega⟩, hfree, htaken⟩
  exact freshChartNameFrom_eq hk hle htaken hfree

/-- The automatic name of a new chart is not taken. -/
theorem hasChart_freshChartName (s : Sheet) : s.hasChart s.freshChartName = false := by
  obtain ⟨k, hk, -, hfree, -⟩ := s.exists_freshChartName
  rw [hk]
  exact hfree

/-- The search for a free name among the automatic names from a number on, with no bound on how many of
them are tried: it ends with a name. -/
inductive NameSearch (s : Sheet) : Nat → String → Prop where
  | free {n : Nat} (h : s.hasChart (chartName n) = false) : s.NameSearch n (chartName n)
  | taken {n : Nat} {name : String} (h : s.hasChart (chartName n) = true)
      (rest : s.NameSearch (n + 1) name) : s.NameSearch n name

namespace NameSearch

/-- The search ends where a name is free. -/
theorem of_free {n k : Nat} (hn : n ≤ k)
    (htaken : ∀ m, n ≤ m → m < k → s.hasChart (chartName m) = true)
    (hfree : s.hasChart (chartName k) = false) : s.NameSearch n (chartName k) := by
  induction hn using Nat.decreasingInduction with
  | self => exact .free hfree
  | of_succ n hlt ih =>
    exact .taken (htaken n (Nat.le_refl n) hlt) (ih fun m hm => htaken m (by omega))

/-- A search for a name ends in one place only. -/
theorem unique {n : Nat} {name name' : String} (h : s.NameSearch n name)
    (h' : s.NameSearch n name') : name = name' := by
  induction h with
  | free hfree =>
    cases h' with
    | free => rfl
    | taken htaken =>
      rw [hfree] at htaken
      cases htaken
  | taken htaken _ ih =>
    cases h' with
    | free hfree =>
      rw [hfree] at htaken
      cases htaken
    | taken _ rest => exact ih rest

end NameSearch

/-- A new chart is called `Chart n` for the least `n` that gives a name of no chart, in any case of its
letters. The number is at most one more than there are charts, so the search for it ends though nothing
bounds it, and it ends with that name only. -/
theorem freshChartName_least (s : Sheet) :
    ∃ n, s.freshChartName = "Chart " ++ n.repr ∧ (1 ≤ n ∧ n ≤ s.charts.length + 1) ∧
      (∀ c ∈ s.charts, sameIgnoringCase c.name ("Chart " ++ n.repr) = false) ∧
      (∀ m, 1 ≤ m → m < n →
        ∃ c ∈ s.charts, sameIgnoringCase c.name ("Chart " ++ m.repr) = true) ∧
      (∀ name, s.NameSearch 1 name ↔ name = s.freshChartName) ∧ s.freshChartName ≠ "" := by
  obtain ⟨n, hname, hn, hfree, htaken⟩ := s.exists_freshChartName
  refine ⟨n, hname, hn, ?_, fun m hm hlt => ?_, fun name => ?_, ?_⟩
  · simpa [hasChart, chartName] using hfree
  · exact List.any_eq_true.mp (htaken m hm hlt)
  · have hends : s.NameSearch 1 s.freshChartName := hname ▸ .of_free hn.1 htaken hfree
    constructor
    · intro h
      exact h.unique hends
    · rintro rfl
      exact hends
  · intro hempty
    rw [hname, chartName, String.append_eq_empty_iff] at hempty
    exact absurd hempty.1 (by decide)

/-- Names in other letters are taken all the same, and a gap is filled. -/
example : freshChartName { name := "Sheet1", charts := [⟨"CHART 3", "bar", "A1", ""⟩,
    ⟨"chart 1", "bar", "A1", ""⟩, ⟨"Chart 1", "bar", "A1", ""⟩] } = "Chart 2" := by
  decide

/-! ## Deleted charts -/

/-- The sheet without its first chart of a name. -/
def eraseChart (s : Sheet) (name : String) : Sheet :=
  { s with charts := s.charts.eraseP fun c => sameIgnoringCase c.name name }

/-- Deleting a chart takes its name off the list once. -/
theorem chartKeys_eraseChart (s : Sheet) (name : String) :
    (s.eraseChart name).chartKeys = s.chartKeys.erase (upperAscii name) := by
  have hname : (fun c : Chart => sameIgnoringCase c.name name) =
      (· == upperAscii name) ∘ fun c => upperAscii c.name := by
    funext c
    rw [Bool.eq_iff_iff, sameIgnoringCase_iff]
    simp
  rw [chartKeys, chartKeys, eraseChart, List.erase_eq_eraseP', List.eraseP_map, hname]

end Sheet

namespace Workbook

variable {w : Workbook} {s : Sheet}

/-- The charts of the active sheet are listed. -/
theorem charts_eq (h : w.activeSheet? = some s) :
    w.charts = .ok (s.charts.map fun c => ⟨c.name, c.title⟩) := by
  rw [charts, activeSheet_eq_ok h]
  rfl

/-- A chart that is listed can be deleted. -/
theorem deleteChart_eq {name : String} (h : w.activeSheet? = some s)
    (hname : upperAscii name ∈ s.chartKeys) :
    w.deleteChart name = .ok (w.withSheet w.activeIndex (s.eraseChart name)) := by
  rw [← Sheet.hasChart_iff, Sheet.hasChart, ← List.findIdx?_isSome] at hname
  obtain ⟨i, hi⟩ := Option.isSome_iff_exists.mp hname
  rw [deleteChart, changeActive_eq h, Sheet.eraseChart, List.eraseP_eq_eraseIdx, hi]
  rfl

/-- A chart that is not there cannot be deleted. -/
theorem deleteChart_eq_error {name : String} (h : w.activeSheet? = some s)
    (hname : upperAscii name ∉ s.chartKeys) :
    w.deleteChart name = .error (.error (.chartNotFound name)) := by
  rw [← Sheet.hasChart_iff, Bool.not_eq_true, Sheet.hasChart, ← List.findIdx?_isSome,
    Option.isSome_eq_false_iff, Option.isNone_iff_eq_none] at hname
  rw [deleteChart, changeActive_eq h, hname]
  rfl

end Workbook

/-! ## All charts -/

section

variable {w : Workbook} {s : Sheet}

/-- Charts that are listed can be deleted one after another. -/
theorem run_forM_deleteChart {entries : List ChartEntry} (h : w.activeSheet? = some s)
    (hentries : (entries.map fun c => upperAscii c.name).Perm s.chartKeys) :
    (entries.forM fun c => call (Workbook.host.deleteChart c.name)).run w =
      (.ok (), w.withSheet w.activeIndex { s with charts := [] }) := by
  induction entries generalizing w s with
  | nil =>
    have hnil : s.charts = [] := by simpa [Sheet.chartKeys] using hentries
    have hself : ({ s with charts := [] } : Sheet) = s := by rw [← hnil]
    rw [hself, Workbook.withSheet_self h]
    rfl
  | cons c entries ih =>
    obtain ⟨hmem, hrest⟩ := List.cons_perm_iff_perm_erase.mp hentries
    rw [← Sheet.chartKeys_eraseChart] at hrest
    have hnext := ih (Workbook.activeSheet?_withSheet h _) hrest
    rw [Workbook.activeIndex_withSheet, Workbook.withSheet_withSheet] at hnext
    show (call (Workbook.act (·.deleteChart c.name)) >>= _).run w = _
    rw [run_act_bind, Workbook.deleteChart_eq h hmem]
    exact hnext

/-- All charts are deleted, also those with the same name. -/
theorem perform_deleteAllCharts (h : w.activeSheet? = some s) (limit : Option Nat) :
    (Operation.deleteAllCharts.perform Workbook.host limit).run w =
      (.ok [], w.withSheet w.activeIndex { s with charts := [] }) := by
  have hnames : (((s.charts.map fun c => (⟨c.name, c.title⟩ : ChartEntry)).reverse).map fun c =>
      upperAscii c.name).Perm s.chartKeys := by
    rw [List.map_reverse, List.map_map]
    exact List.reverse_perm _
  have hall := run_forM_deleteChart h hnames
  rw [Operation.perform]
  show (call (Workbook.ask (·.charts)) >>= _).run w = _
  rw [run_ask_bind, Workbook.charts_eq h]
  simp only [run_step_bind, hall]
  rfl

end

end SheetScript
