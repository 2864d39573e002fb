import SheetScript.Proofs.ByteOrder
import SheetScript.Proofs.Storing

/-!
# Sheets that are loaded

A stored sheet may be edited by hand, so a cell can stand under several texts that all name its position,
in other letters, with dollar signs, with zeros or with blanks. The entries are read in the order of the
bytes of their texts. Blank ones are passed over, and a later one replaces an earlier one.

- `Cells.get_ofList_append_cons`: of several entries for a position the last one counts.
- `StoredSheet.EntryFor`, `StoredSheet.LastEntryFor`: the entries for a position, and the one that counts.
- `StoredSheet.LoadsAs`: a stored sheet and the sheet that it is read as.
- `StoredSheet.toSheet_loadsAs`: every stored sheet is read as such a sheet, unless a text names no
  position.
-/

namespace SheetScript

open Grid

/-! ## The last entry -/

/-- A list with elements that pass a test has a last one. -/
theorem exists_last_of_mem {α : Type} {q : α → Bool} {l : List α} {a : α} (ha : a ∈ l)
    (hq : q a = true) :
    ∃ before b after, l = before ++ b :: after ∧ q b = true ∧ ∀ x ∈ after, q x = false := by
  have hfound : (l.reverse.find? q).isSome = true :=
    List.find?_isSome.mpr ⟨a, List.mem_reverse.mpr ha, hq⟩
  obtain ⟨b, hb⟩ := Option.isSome_iff_exists.mp hfound
  obtain ⟨hqb, after, before, hsplit, hafter⟩ := List.find?_eq_some_iff_append.mp hb
  refine ⟨before.reverse, b, after.reverse, ?_, hqb, fun x hx => ?_⟩
  · rw [← List.reverse_reverse l, hsplit]
    simp
  · simpa using hafter x (List.mem_reverse.mp hx)

namespace Cells

variable {p : Position} {c : Cell}

/-- Of several entries for a position the last one counts. -/
theorem get_ofList_append_cons {before after : List (Position × Cell)} (h : ∀ d, (p, d) ∉ after) :
    (ofList (before ++ (p, c) :: after)).get p = c := by
  have hfold : ofList (before ++ (p, c) :: after) = ((ofList before).set p c).setAll after := by
    simp [ofList, setAll]
  rw [hfold]
  refine get_setAll_eq (fun d hd => absurd hd (h d)) fun _ => ?_
  rw [get_set_self]

/-- A position without an entry is blank. -/
theorem get_ofList_of_forall {entries : List (Position × Cell)} (h : ∀ d, (p, d) ∉ entries) :
    (ofList entries).get p = .blank :=
  get_setAll_eq (fun d hd => absurd hd (h d)) fun _ => get_empty p

end Cells

namespace StoredSheet

variable {r : StoredSheet} {s : Sheet} {p : Position} {key : String} {c : Cell}

/-- A stored sheet has an entry for a position: its key names the position, and its cell is not blank. -/
def EntryFor (r : StoredSheet) (p : Position) (key : String) (c : Cell) : Prop :=
  r.cells[key]? = some c ∧ Position.parse? key = some p ∧ c.isBlank = false

/-- Of the entries for a position the one with the last key, in the order of bytes. -/
def LastEntryFor (r : StoredSheet) (p : Position) (key : String) (c : Cell) : Prop :=
  r.EntryFor p key c ∧ ∀ key' c', r.EntryFor p key' c' → Text.utf8 key' ≤ Text.utf8 key

/-- There is only one last entry. -/
theorem LastEntryFor.unique {key' : String} {c' : Cell} (h : r.LastEntryFor p key c)
    (h' : r.LastEntryFor p key' c') : c = c' := by
  have hle := Text.utf8_le_iff.mp (h'.2 _ _ h.1)
  have hge := Text.utf8_le_iff.mp (h.2 _ _ h'.1)
  obtain rfl := le_antisymm hle hge
  exact Option.some.inj (h.1.1.symm.trans h'.1.1)

/-! ## Reading the entries -/

/-- The entries that are placed in a sheet. -/
def used (entries : List (String × Cell)) : List (Position × Cell) :=
  (placed entries).filter fun e => !e.2.isBlank

/-- The entries that count are those that are not blank, at the positions of their keys. -/
theorem mem_used {entries : List (String × Cell)} :
    (p, c) ∈ used entries ↔
      ∃ key, (key, c) ∈ entries ∧ Position.parse? key = some p ∧ c.isBlank = false := by
  simp only [used, placed, List.mem_filter, List.mem_filterMap, Option.map_eq_some_iff,
    Prod.mk.injEq, Bool.not_eq_true']
  constructor
  · rintro ⟨⟨⟨key, c⟩, he, p, hp, rfl, rfl⟩, hc⟩
    exact ⟨key, he, hp, hc⟩
  · rintro ⟨key, he, hp, hc⟩
    exact ⟨⟨(key, c), he, p, hp, rfl, rfl⟩, hc⟩

theorem mem_used_toList : (p, c) ∈ used r.cells.toList ↔ ∃ key, r.EntryFor p key c := by
  rw [mem_used]
  simp only [EntryFor, Std.ExtTreeMap.mem_toList_iff_getElem?_eq_some]

/-- A position with an entry shows the cell of the last one. The keys are listed in their order, so that
one is found at the end of the list. -/
theorem exists_lastEntryFor (h : r.EntryFor p key c) :
    ∃ key' c', r.LastEntryFor p key' c' ∧ (Cells.ofList (used r.cells.toList)).get p = c' := by
  have hmem : (key, c) ∈ r.cells.toList := Std.ExtTreeMap.mem_toList_iff_getElem?_eq_some.mpr h.1
  obtain ⟨before, ⟨key', c'⟩, after, hsplit, hlast, hafter⟩ :=
    exists_last_of_mem (q := fun e => Position.parse? e.1 == some p && !e.2.isBlank) hmem
      (by simp [h.2.1, h.2.2])
  simp only [Bool.and_eq_true, beq_iff_eq, Bool.not_eq_true'] at hlast
  have hnone : ∀ key d, (key, d) ∈ after → Position.parse? key = some p → d.isBlank = true := by
    intro key d hd hparse
    simpa [hparse] using hafter (key, d) hd
  refine ⟨key', c', ⟨⟨?_, hlast⟩, ?_⟩, ?_⟩
  · rw [← Std.ExtTreeMap.mem_toList_iff_getElem?_eq_some, hsplit]
    exact List.mem_append_right _ List.mem_cons_self
  · intro key'' c'' h''
    have hordered := Std.ExtTreeMap.ordered_keys_toList (t := r.cells)
    have hmem'' := Std.ExtTreeMap.mem_toList_iff_getElem?_eq_some.mpr h''.1
    rw [hsplit] at hordered hmem''
    rw [Text.utf8_le_iff]
    rcases List.mem_append.mp hmem'' with hbefore | hcons
    · exact (compare_lt_iff_lt.mp
        ((List.pairwise_append.mp hordered).2.2 _ hbefore _ List.mem_cons_self)).le
    · rcases List.mem_cons.mp hcons with heq | hlater
      · exact (Prod.mk.inj heq).1.le
      · have hblank := hnone _ _ hlater h''.2.1
        rw [h''.2.2] at hblank
        cases hblank
  · have hused : used r.cells.toList = used before ++ (p, c') :: used after := by
      simp [hsplit, used, placed, hlast.1, hlast.2]
    rw [hused]
    refine Cells.get_ofList_append_cons fun d hd => ?_
    obtain ⟨key, hd, hparse, hd'⟩ := mem_used.mp hd
    rw [hnone key d hd hparse] at hd'
    cases hd'

/-- A position holds the last of its entries. -/
theorem find?_used_eq_some_iff :
    (Cells.ofList (used r.cells.toList)).find? p = some c ↔ ∃ key, r.LastEntryFor p key c := by
  rw [Cells.find?_eq_some_iff]
  constructor
  · rintro ⟨hget, hc⟩
    by_cases hexists : ∃ key d, r.EntryFor p key d
    · obtain ⟨key, d, h⟩ := hexists
      obtain ⟨key', c', hlast, hget'⟩ := exists_lastEntryFor h
      obtain rfl : c' = c := hget'.symm.trans hget
      exact ⟨key', hlast⟩
    · -- without an entry the position would be blank
      rw [Cells.get_ofList_of_forall fun d hd => ?_] at hget
      · rw [← hget, Cell.isBlank_blank] at hc
        cases hc
      · obtain ⟨key, h⟩ := mem_used_toList.mp hd
        exact hexists ⟨key, d, h⟩
  · rintro ⟨key, hlast⟩
    obtain ⟨key', c', hlast', hget⟩ := exists_lastEntryFor hlast.1
    obtain rfl := hlast.unique hlast'
    exact ⟨hget, hlast.1.2.2⟩

theorem find?_used_eq_none_iff :
    (Cells.ofList (used r.cells.toList)).find? p = none ↔ ∀ key c, ¬r.EntryFor p key c := by
  constructor
  · intro hnone key c h
    obtain ⟨key', c', hlast, -⟩ := exists_lastEntryFor h
    rw [find?_used_eq_some_iff.mpr ⟨key', hlast⟩] at hnone
    cases hnone
  · intro h
    refine Cells.find?_eq_none_iff.mpr (Cells.get_ofList_of_forall fun d hd => ?_)
    obtain ⟨key, hd⟩ := mem_used_toList.mp hd
    exact h key d hd

/-! ## Loading -/

/-- What holds of the keys holds of the entries that are listed. -/
theorem forall_keys_iff {P : String → Prop} :
    (∀ key ∈ r.cells, P key) ↔ ∀ e ∈ r.cells.toList, P e.1 := by
  simp only [Std.ExtTreeMap.mem_iff_isSome_getElem?, Option.isSome_iff_exists, Prod.forall,
    Std.ExtTreeMap.mem_toList_iff_getElem?_eq_some]
  constructor
  · intro h key c hc
    exact h key ⟨c, hc⟩
  · rintro h key ⟨c, hc⟩
    exact h key c hc

/-- A stored sheet is read unless a text names no position. -/
theorem toSheet_eq_ok (h : ∀ key ∈ r.cells, Position.parse? key ≠ none) :
    r.toSheet = .ok ⟨r.name, .ofList (used r.cells.toList), r.charts⟩ := by
  rw [toSheet, mapM_place_eq_ok r.name (forall_keys_iff.mp h)]
  rfl

/-- One text that names no position is enough for none to be read, though its cell may be blank. -/
theorem exists_mapM_place_eq_error (sheet : String) {entries : List (String × Cell)}
    (he : (key, c) ∈ entries) (hkey : Position.parse? key = none) :
    ∃ e, entries.mapM (place sheet) = .error e := by
  induction entries with
  | nil => cases he
  | cons e entries ih =>
    rw [List.mapM_cons]
    cases hplace : place sheet e with
    | error cause => exact ⟨cause, rfl⟩
    | ok e' =>
      rcases List.mem_cons.mp he with rfl | he
      · rw [place, hkey] at hplace
        cases hplace
      · obtain ⟨cause, hcause⟩ := ih he
        rw [hcause]
        exact ⟨cause, rfl⟩

/-- A key that is no position spoils the sheet. -/
theorem exists_toSheet_eq_error (h : key ∈ r.cells) (hkey : Position.parse? key = none) :
    ∃ e, r.toSheet = .error e := by
  obtain ⟨c, hc⟩ := Option.isSome_iff_exists.mp (Std.ExtTreeMap.mem_iff_isSome_getElem?.mp h)
  obtain ⟨e, he⟩ := exists_mapM_place_eq_error r.name
    (Std.ExtTreeMap.mem_toList_iff_getElem?_eq_some.mpr hc) hkey
  refine ⟨e, ?_⟩
  rw [toSheet, he]
  rfl

/-- What a stored sheet is read as. -/
structure LoadsAs (r : StoredSheet) (s : Sheet) : Prop where
  name_eq : s.name = r.name
  charts_eq : s.charts = r.charts
  /-- The last entry for a position counts. -/
  find?_eq_some_iff : ∀ p c, s.cells.find? p = some c ↔ ∃ key, r.LastEntryFor p key c
  /-- Nothing is read for a position without an entry. -/
  find?_eq_none_iff : ∀ p, s.cells.find? p = none ↔ ∀ key c, ¬r.EntryFor p key c
  /-- No blank cell is read, and none outside the grid. -/
  cells_stored : ∀ e ∈ s.cells.toList, e.2.isBlank = false ∧
    (1 ≤ e.1.row ∧ e.1.row ≤ maxRows) ∧ (1 ≤ e.1.col ∧ e.1.col ≤ maxColumns)
  /-- When the sheet is stored again, each cell in use has one entry, under the text of its position. -/
  perm_toList_ofSheet :
    (ofSheet s).cells.toList.Perm (s.cells.toList.map fun e => (e.1.text, e.2))
  /-- What is stored then is read as the same sheet. -/
  toSheet_ofSheet : (ofSheet s).toSheet = .ok s

/-- What is stored of a sheet are its cells in use under the texts of their positions. -/
theorem perm_toList_ofSheet (s : Sheet) :
    (ofSheet s).cells.toList.Perm (s.cells.toList.map underText) := by
  refine (List.perm_ext_iff_of_nodup ?_ ?_).mpr fun ⟨key, c⟩ => mem_toList_ofSheet s
  · exact (nodup_keys_toList _).of_map _
  · exact (s.cells.nodup_keys_toList.of_map _).map underText_injective

/-- Every stored sheet is read, unless a text in it names no position, even if that is the text of a blank
cell. Each position shows the cell of its last entry, and once stored again there is one entry for it. -/
theorem toSheet_loadsAs (r : StoredSheet) :
    ((∃ e, r.toSheet = .error e) ↔ ∃ key ∈ r.cells, Position.parse? key = none) ∧
      ((∀ key ∈ r.cells, Position.parse? key ≠ none) →
        ∃ s, r.toSheet = .ok s ∧ r.LoadsAs s) := by
  constructor
  · constructor
    · rintro ⟨e, he⟩
      by_contra hnone
      push Not at hnone
      rw [toSheet_eq_ok hnone] at he
      cases he
    · rintro ⟨key, hmem, hkey⟩
      exact exists_toSheet_eq_error hmem hkey
  · intro h
    refine ⟨_, toSheet_eq_ok h, ?_⟩
    exact {
      name_eq := rfl
      charts_eq := rfl
      find?_eq_some_iff := fun _ _ => find?_used_eq_some_iff
      find?_eq_none_iff := fun _ => find?_used_eq_none_iff
      cells_stored := fun e he => ⟨(Cells.mem_toList.mp he).2, e.1.row_mem, e.1.col_mem⟩
      perm_toList_ofSheet := perm_toList_ofSheet _
      toSheet_ofSheet := toSheet_ofSheet _ }

/-- A sheet that was edited by hand: the first cell under three texts, one of them for a blank cell, and
another cell under a text with all freedoms. -/
def handEdited : StoredSheet where
  name := "Sheet1"
  cells := cellsOfEntries [("a1", { value := "small" }), ("A1", { value := "large" }),
    ("a01", {}), (" $b$07 ", { formula := some "=A1" })]

/-- Of two keys for one position the later one in byte order counts. -/
theorem toSheet_loadsAs_handEdited :
    (∀ key ∈ handEdited.cells, Position.parse? key ≠ none) ∧
      ∃ s, handEdited.toSheet = .ok s ∧ handEdited.LoadsAs s ∧
        s.cells.find? ⟨1, 1, by decide, by decide⟩ = some { value := "small" } := by
  have hkeys : ∀ key ∈ handEdited.cells, Position.parse? key ≠ none :=
    forall_keys_iff.mpr (by decide +kernel)
  have hfirst : (handEdited.toSheet.toOption.bind fun s =>
      s.cells.find? ⟨1, 1, by decide, by decide⟩) = some { value := "small" } := by
    decide +kernel
  obtain ⟨s, hs, hloads⟩ := (toSheet_loadsAs handEdited).2 hkeys
  rw [hs] at hfirst
  exact ⟨hkeys, s, hs, hloads, hfirst⟩

end StoredSheet

end SheetScript
