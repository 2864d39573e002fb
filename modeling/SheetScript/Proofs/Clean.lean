import SheetScript.Command.Operation
import SheetScript.Proofs.Writes

/-!
# Clean workbooks

A workbook is clean if its active sheet exists, its sheets can be told apart by names that can be
written in a command, and its cells are as a user could have typed them. Only then can every change be
written down as a command and taken back.

- `Cell.Normal`: formulas are stored as formulas.
- `Cell.Clean`, `Workbook.Clean`: the invariant.
- `NamesDistinct.sheetIndex?_eq_some_iff`: sheets with distinct names are found by them.
- `NamesDistinct.withSheet`, `NamesDistinct.append`: a new name has to be free.
- `Clean.withSheet`: changing the cells of a sheet, or renaming it, keeps a workbook clean.
- `Clean.append`: so does a new sheet.
-/

namespace SheetScript

open Grid

/-- Whether a cell with a formula has no value of its own, and its formula starts with an equals sign. -/
def Cell.Normal (c : Cell) : Prop :=
  ∀ f ∈ c.formula, c.value = "" ∧ f.toList.head? = some '='

instance (c : Cell) : Decidable c.Normal :=
  inferInstanceAs (Decidable (∀ f ∈ c.formula, c.value = "" ∧ f.toList.head? = some '='))

namespace Cell.Normal

variable {c : Cell}

theorem blank : Cell.blank.Normal := by
  intro f hf
  cases hf

/-- A cell that a text is written to holds no formula. -/
theorem withValue (text : String) (c : Cell) : (c.withValue text).Normal := by
  intro f hf
  cases hf

/-- A cell that a text is entered into holds a value or a formula. -/
theorem withEntry (text : String) (c : Cell) : (c.withEntry text).Normal := by
  unfold Cell.withEntry
  split
  next h =>
    intro f hf
    cases hf
    exact ⟨rfl, h⟩
  next => exact withValue text c

theorem withBold (h : c.Normal) (bold : Bool) : (c.withBold bold).Normal := h

theorem withFill (h : c.Normal) (color : String) : (c.withFill color).Normal := h

/-- A constant is entered as a value and a formula as a formula: the one that a normal cell has can be
told from the other. -/
theorem restored (h : c.Normal) (d : Cell) :
    (if c.shown = c.value then Cell.withValue c.value else Cell.withEntry c.shown) d =
      { d with value := c.value, formula := c.formula } := by
  cases hformula : c.formula with
  | none =>
    have hshown : c.shown = c.value := by
      rw [Cell.shown, hformula]
      rfl
    rw [if_pos hshown]
    rfl
  | some f =>
    obtain ⟨hvalue, hf⟩ := h f hformula
    have hshown : c.shown = f := by
      rw [Cell.shown, hformula]
      rfl
    have hne : c.shown ≠ c.value := by
      rw [hshown, hvalue]
      rintro rfl
      cases hf
    rw [if_neg hne, hshown, hvalue, Cell.withEntry, if_pos hf]

end Cell.Normal

/-- A cell as a user could have typed it: only a formula starts with an equals sign, and a formula has
no value of its own. -/
structure Cell.Clean (c : Cell) : Prop where
  formula : ∀ f ∈ c.formula, c.value = "" ∧ f.toList.head? = some '='
  value : c.value.toList.head? ≠ some '='

instance (c : Cell) : Decidable c.Clean :=
  decidable_of_iff
    ((∀ f ∈ c.formula, c.value = "" ∧ f.toList.head? = some '=') ∧ c.value.toList.head? ≠ some '=')
    ⟨fun h => ⟨h.1, h.2⟩, fun h => ⟨h.formula, h.value⟩⟩

namespace Cell.Clean

variable {c : Cell}

theorem normal (h : c.Clean) : c.Normal := h.formula

theorem blank : Cell.blank.Clean where
  formula := by simp [Cell.blank]
  value := by decide

theorem withValue {v : String} (h : v.toList.head? ≠ some '=') (c : Cell) :
    (c.withValue v).Clean where
  formula := by simp [Cell.withValue]
  value := h

theorem withEntry (f : String) (c : Cell) : (c.withEntry f).Clean := by
  unfold Cell.withEntry
  split
  next h =>
    refine ⟨by simpa using h, ?_⟩
    show "".toList.head? ≠ some '='
    decide
  next h => exact withValue h c

theorem withBold (h : c.Clean) (bold : Bool) : (c.withBold bold).Clean :=
  ⟨h.formula, h.value⟩

theorem withFill (h : c.Clean) (color : String) : (c.withFill color).Clean :=
  ⟨h.formula, h.value⟩

/-- What a clean cell shows, entered into the cell that took its place, gives it back. -/
theorem withEntry_shown (h : c.Clean) {d : Cell} (hbold : d.bold = c.bold) (hfill : d.fill = c.fill) :
    d.withEntry c.shown = c := by
  obtain ⟨value, formula, bold, fill⟩ := c
  obtain ⟨value', formula', bold', fill'⟩ := d
  obtain rfl : bold' = bold := hbold
  obtain rfl : fill' = fill := hfill
  cases formula with
  | none => simp [Cell.shown, Cell.withEntry, Cell.withValue, h.value]
  | some f =>
    obtain ⟨rfl, hf⟩ := h.formula f rfl
    simp [Cell.shown, Cell.withEntry, hf]

end Cell.Clean

namespace Workbook

/-- Whether no two sheets have the same name, whether in upper or in lower case. -/
def NamesDistinct (w : Workbook) : Prop :=
  w.sheets.Pairwise fun s t => Text.sameIgnoringCase s.name t.name = false

namespace NamesDistinct

variable {w : Workbook} {i j : Nat} {s t : Sheet}

/-- Two sheets with the same name are one sheet. -/
theorem eq_of_sameIgnoringCase (h : w.NamesDistinct) (hi : w.sheets[i]? = some s)
    (hj : w.sheets[j]? = some t) (hname : Text.sameIgnoringCase s.name t.name = true) : i = j := by
  obtain ⟨hi', rfl⟩ := List.getElem?_eq_some_iff.mp hi
  obtain ⟨hj', rfl⟩ := List.getElem?_eq_some_iff.mp hj
  have hdistinct := List.pairwise_iff_getElem.mp h
  rcases Nat.lt_trichotomy i j with hlt | heq | hgt
  · rw [hdistinct i j hi' hj' hlt] at hname
    cases hname
  · exact heq
  · rw [Text.sameIgnoringCase_comm, hdistinct j i hj' hi' hgt] at hname
    cases hname

/-- A sheet is found by its name. -/
theorem sheetIndex?_eq_some_iff (h : w.NamesDistinct) {name : String} :
    w.sheetIndex? name = some i ↔
      ∃ s, w.sheets[i]? = some s ∧ Text.sameIgnoringCase s.name name = true := by
  rw [Workbook.sheetIndex?_eq_some_iff]
  constructor
  · rintro ⟨hi, hname, -⟩
    exact ⟨_, List.getElem?_eq_getElem hi, hname⟩
  · rintro ⟨s, hs, hname⟩
    obtain ⟨hi, rfl⟩ := List.getElem?_eq_some_iff.mp hs
    refine ⟨hi, hname, fun j hj => ?_⟩
    -- an earlier sheet with that name would be this one
    by_contra hne
    have hsame : Text.sameIgnoringCase w.sheets[j].name w.sheets[i].name = true :=
      Text.sameIgnoringCase_trans (by simpa using hne) (by rwa [Text.sameIgnoringCase_comm])
    have := h.eq_of_sameIgnoringCase (List.getElem?_eq_getElem (by omega)) hs hsame
    omega

/-- A sheet whose name is its own is found by it. -/
theorem requireSheet_name (h : w.NamesDistinct) (hs : w.sheets[i]? = some s) :
    w.requireSheet s.name = .ok i :=
  requireSheet_eq_ok_iff.mpr (h.sheetIndex?_eq_some_iff.mpr ⟨s, hs, Text.sameIgnoringCase_refl _⟩)

/-- No other sheet has a name if the lookup finds none. -/
theorem any_sheetIndex?_eq_false_iff (h : w.NamesDistinct) {name : String} :
    (w.sheetIndex? name).any (· != i) = false ↔
      ∀ j u, w.sheets[j]? = some u → Text.sameIgnoringCase u.name name = true → j = i := by
  constructor
  · intro hany j u hu hsame
    rw [h.sheetIndex?_eq_some_iff.mpr ⟨u, hu, hsame⟩] at hany
    simpa using hany
  · intro hfree
    cases hindex : w.sheetIndex? name with
    | none => rfl
    | some j =>
      obtain ⟨u, hu, hsame⟩ := h.sheetIndex?_eq_some_iff.mp hindex
      rw [hfree j u hu hsame]
      simp

/-- A sheet may be replaced by another one whose name no other sheet has. -/
theorem withSheet (h : w.NamesDistinct)
    (hfree : ∀ j u, w.sheets[j]? = some u → Text.sameIgnoringCase u.name t.name = true → j = i) :
    (w.withSheet i t).NamesDistinct := by
  have hdistinct := List.pairwise_iff_getElem.mp h
  refine List.pairwise_iff_getElem.mpr fun a b ha hb hab => ?_
  rw [length_sheets_withSheet] at ha hb
  simp only [Workbook.withSheet, List.getElem_set]
  by_contra hne
  rw [Bool.not_eq_false] at hne
  -- one of two sheets with the same name is the new one, or else they were so before
  split_ifs at hne with hia hib hib
  · omega
  · have := hfree b _ (List.getElem?_eq_getElem hb)
      (by rwa [Text.sameIgnoringCase_comm])
    omega
  · have := hfree a _ (List.getElem?_eq_getElem ha) hne
    omega
  · rw [hdistinct a b ha hb hab] at hne
    cases hne

/-- A sheet may be replaced by one with its name. -/
theorem withSameName (h : w.NamesDistinct) (hs : w.sheets[i]? = some s) (hname : t.name = s.name) :
    (w.withSheet i t).NamesDistinct := by
  refine h.withSheet fun j u hu hsame => ?_
  rw [hname] at hsame
  exact h.eq_of_sameIgnoringCase hu hs hsame

/-- A sheet with a new name may be added. -/
theorem append (h : w.NamesDistinct) {name : String} (hnew : w.sheetIndex? name = none) :
    NamesDistinct { w with sheets := w.sheets ++ [{ name }] } := by
  refine List.pairwise_append.mpr ⟨h, List.pairwise_singleton _ _, ?_⟩
  intro s hs t ht
  rw [List.mem_singleton] at ht
  subst ht
  rw [sheetIndex?, List.findIdx?_eq_none_iff] at hnew
  simpa using hnew s hs

end NamesDistinct

/-- A clean workbook: commands can say everything there is in it. -/
structure Clean (w : Workbook) : Prop where
  active_lt : w.active < w.sheets.length
  names_distinct : w.NamesDistinct
  /-- Every name is read as it is. -/
  names_stable : ∀ s ∈ w.sheets, Operation.sheetName s.name = .ok s.name
  cells_clean : ∀ s ∈ w.sheets, ∀ p, (s.cells.get p).Clean

instance (w : Workbook) : Decidable w.NamesDistinct :=
  inferInstanceAs (Decidable (List.Pairwise _ w.sheets))

instance (w : Workbook) : Decidable w.Clean :=
  decidable_of_iff (w.active < w.sheets.length ∧ w.NamesDistinct ∧
      (∀ s ∈ w.sheets, Operation.sheetName s.name = .ok s.name) ∧
      ∀ s ∈ w.sheets, ∀ e ∈ s.cells.toList, e.2.Clean) (by
    have hcells : ∀ s : Sheet, (∀ e ∈ s.cells.toList, e.2.Clean) ↔ ∀ p, (s.cells.get p).Clean :=
      fun s => (Cells.forall_get_iff (P := fun _ c => c.Clean) fun _ => Cell.Clean.blank).symm
    simp only [hcells]
    exact ⟨fun ⟨h₁, h₂, h₃, h₄⟩ => ⟨h₁, h₂, h₃, h₄⟩, fun ⟨h₁, h₂, h₃, h₄⟩ => ⟨h₁, h₂, h₃, h₄⟩⟩)

namespace Clean

variable {w : Workbook} {i j : Nat} {s t : Sheet}

theorem sheets_ne_nil (h : w.Clean) : w.sheets ≠ [] := by
  have := h.active_lt
  rintro hnil
  rw [hnil] at this
  cases this

/-- The active index is stored as it is. -/
theorem activeIndex_eq (h : w.Clean) : w.activeIndex = w.active := by
  have := h.active_lt
  rw [activeIndex]
  omega

/-- Two sheets with the same name are one sheet. -/
theorem eq_of_sameIgnoringCase (h : w.Clean) (hi : w.sheets[i]? = some s)
    (hj : w.sheets[j]? = some t) (hname : Text.sameIgnoringCase s.name t.name = true) : i = j :=
  h.names_distinct.eq_of_sameIgnoringCase hi hj hname

/-- A sheet is found by its name. -/
theorem sheetIndex?_eq_some_iff (h : w.Clean) {name : String} :
    w.sheetIndex? name = some i ↔
      ∃ s, w.sheets[i]? = some s ∧ Text.sameIgnoringCase s.name name = true :=
  h.names_distinct.sheetIndex?_eq_some_iff

theorem requireSheet_name (h : w.Clean) (hs : w.sheets[i]? = some s) :
    w.requireSheet s.name = .ok i :=
  h.names_distinct.requireSheet_name hs

/-- A sheet may be replaced by another clean one whose name no other sheet has. -/
theorem withSheet (h : w.Clean) (hstable : Operation.sheetName t.name = .ok t.name)
    (hfree : ∀ j u, w.sheets[j]? = some u → Text.sameIgnoringCase u.name t.name = true → j = i)
    (hcells : ∀ p, (t.cells.get p).Clean) : (w.withSheet i t).Clean where
  active_lt := by simpa [Workbook.withSheet] using h.active_lt
  names_distinct := h.names_distinct.withSheet hfree
  names_stable := by
    intro u hu
    rcases List.mem_or_eq_of_mem_set hu with hu | rfl
    · exact h.names_stable u hu
    · exact hstable
  cells_clean := by
    intro u hu
    rcases List.mem_or_eq_of_mem_set hu with hu | rfl
    · exact h.cells_clean u hu
    · exact hcells

/-- The cells of a sheet may be replaced by other clean ones. -/
theorem withCells (h : w.Clean) (hs : w.sheets[i]? = some s) (hname : t.name = s.name)
    (hcells : ∀ p, (t.cells.get p).Clean) : (w.withSheet i t).Clean := by
  refine h.withSheet ?_ (fun j u hu hsame => ?_) hcells
  · rw [hname]
    exact h.names_stable s (List.mem_of_getElem? hs)
  · rw [hname] at hsame
    exact h.eq_of_sameIgnoringCase hu hs hsame

/-- A blank sheet with a new name may be added. -/
theorem append (h : w.Clean) {name : String} (hnew : w.sheetIndex? name = none)
    (hstable : Operation.sheetName name = .ok name) :
    Clean { w with sheets := w.sheets ++ [{ name }] } where
  active_lt := by
    have := h.active_lt
    simp only [List.length_append, List.length_singleton]
    omega
  names_distinct := h.names_distinct.append hnew
  names_stable := by
    intro s hs
    rcases List.mem_append.mp hs with hs | hs
    · exact h.names_stable s hs
    · rw [List.mem_singleton] at hs
      subst hs
      exact hstable
  cells_clean := by
    intro s hs p
    rcases List.mem_append.mp hs with hs | hs
    · exact h.cells_clean s hs p
    · rw [List.mem_singleton] at hs
      subst hs
      rw [Cells.get_empty]
      exact Cell.Clean.blank

end Clean

end Workbook

end SheetScript
