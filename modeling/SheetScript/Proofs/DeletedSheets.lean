import SheetScript.Proofs.Workbooks
import SheetScript.Workbook.Host

/-!
# Deleting sheets

The first sheet with the name is deleted and the sheets behind it move up by one, so the number of the
active sheet has to follow. The number that is stored may be past the last sheet.

- `indexAfter`: where an element is found after another one was taken out.
- `Workbook.exists_of_sheetIndex?`: a sheet that is found by name, between those before and behind it.
- `Workbook.withoutSheet`: what a deletion leaves, and `activeIndex_withoutSheet` which sheet is active.
- `Workbook.Names.withoutSheet`: what addresses of other sheets name afterwards.
- `Workbook.deleteSheet_found`: the sheet that is found is deleted, and the active sheet stays active unless
  it is that sheet.
-/

namespace SheetScript

open Grid

/-! ## Moving up -/

/-- Where the element at `j` is found after the one at `i` was taken out. -/
def indexAfter (i j : Nat) : Nat :=
  if i < j then j - 1 else j

/-- An item that is left is found where it moved to. -/
theorem getElem?_eraseIdx_indexAfter {α : Type} {xs : List α} {i j : Nat} (h : i ≠ j) :
    (xs.eraseIdx i)[indexAfter i j]? = xs[j]? := by
  rw [indexAfter, List.getElem?_eraseIdx]
  split
  next hlt =>
    rw [if_neg (by omega), Nat.sub_add_cancel (by omega)]
  next hge =>
    rw [if_pos (by omega)]

/-- A search that does not end at what is taken out ends at the same element. -/
theorem findIdx?_eraseIdx {α : Type} {xs : List α} {p : α → Bool} {i j : Nat}
    (hj : xs.findIdx? p = some j) (h : i ≠ j) :
    (xs.eraseIdx i).findIdx? p = some (indexAfter i j) := by
  obtain ⟨hlt, hp, hbefore⟩ := List.findIdx?_eq_some_iff_getElem.mp hj
  obtain ⟨hlt', hfound⟩ := List.getElem?_eq_some_iff.mp
    ((getElem?_eraseIdx_indexAfter h).trans (List.getElem?_eq_getElem hlt))
  refine List.findIdx?_eq_some_iff_getElem.mpr ⟨hlt', hfound ▸ hp, fun k hk => ?_⟩
  rw [List.getElem_eraseIdx]
  -- what comes before the place where it is found now came before it all along
  have hplace : k < i ∧ k < j ∨ ¬k < i ∧ k + 1 < j := by
    rw [indexAfter] at hk
    split at hk <;> omega
  rcases hplace with ⟨hki, hkj⟩ | ⟨hki, hkj⟩
  · simpa only [dif_pos hki] using hbefore k hkj
  · simpa only [dif_neg hki] using hbefore (k + 1) hkj

/-- Where an element was taken out its successor is found, or the last element if it had none. -/
theorem getElem?_append_min {α : Type} (before after : List α) :
    (before ++ after)[min before.length ((before ++ after).length - 1)]? =
      after.head?.or before.getLast? := by
  cases after with
  | nil =>
    rw [List.append_nil, Nat.min_eq_right (Nat.sub_le _ _), List.head?_nil, Option.none_or,
      List.getLast?_eq_getElem?]
  | cons a after =>
    have hmin : min before.length ((before ++ a :: after).length - 1) = before.length := by
      rw [List.length_append, List.length_cons]
      omega
    rw [hmin, List.getElem?_append_right (Nat.le_refl _), Nat.sub_self, List.head?_cons,
      Option.some_or]
    rfl

namespace Workbook

variable {w : Workbook} {i : Nat} {name : String}

/-! ## The sheet that is found -/

/-- The sheet that is found is the first one with the name. -/
theorem exists_of_sheetIndex? (hi : w.sheetIndex? name = some i) :
    ∃ before s after, w.sheets = before ++ s :: after ∧ before.length = i ∧
      Text.sameIgnoringCase s.name name = true ∧
      ∀ t ∈ before, Text.sameIgnoringCase t.name name = false := by
  obtain ⟨hlt, hs, hbefore⟩ := sheetIndex?_eq_some_iff.mp hi
  refine ⟨w.sheets.take i, w.sheets[i], w.sheets.drop (i + 1), ?_, ?_, hs, fun t ht => ?_⟩
  · rw [← List.drop_eq_getElem_cons hlt, List.take_append_drop]
  · exact List.length_take_of_le hlt.le
  · obtain ⟨j, hj, rfl⟩ := List.mem_take_iff_getElem.mp ht
    exact hbefore j (by omega)

/-! ## What is left -/

/-- The workbook without the sheet at an index. -/
def withoutSheet (w : Workbook) (i : Nat) : Workbook :=
  { w with
    sheets := w.sheets.eraseIdx i
    active :=
      if i < w.activeIndex then w.activeIndex - 1 else min w.activeIndex (w.sheets.length - 2) }

/-- A sheet that is found and is not the only one is deleted. -/
theorem deleteSheet_eq (hi : w.sheetIndex? name = some i) (hlength : w.sheets.length ≠ 1) :
    w.deleteSheet name = .ok (w.withoutSheet i) := by
  rw [deleteSheet, requireSheet_eq_ok_iff.mpr hi]
  show (if w.sheets.length = 1 then _ else _) = _
  rw [if_neg hlength]
  rfl

theorem deleteSheet_eq_error (hi : w.sheetIndex? name = some i) (hlength : w.sheets.length = 1) :
    w.deleteSheet name = .error (.error .lastSheet) := by
  rw [deleteSheet, requireSheet_eq_ok_iff.mpr hi]
  show (if w.sheets.length = 1 then _ else _) = _
  rw [if_pos hlength]
  rfl

/-- Whatever number is stored, the number of the active sheet follows it when another sheet goes. -/
theorem activeIndex_withoutSheet (hi : i < w.sheets.length) :
    (w.withoutSheet i).activeIndex =
      if i = w.activeIndex then min i ((w.sheets.eraseIdx i).length - 1)
      else indexAfter i w.activeIndex := by
  have hactive : w.activeIndex < w.sheets.length :=
    activeIndex_lt (List.ne_nil_of_length_pos (Nat.zero_lt_of_lt hi))
  -- the stored number counts only through the index, which is less than the number of sheets
  show min (if i < w.activeIndex then _ else _) ((w.sheets.eraseIdx i).length - 1) = _
  rw [List.length_eraseIdx_of_lt hi, indexAfter]
  rcases Nat.lt_trichotomy i w.activeIndex with hbefore | hsame | hbehind
  · rw [if_pos hbefore, if_neg hbefore.ne, if_pos hbefore]
    omega
  · rw [if_neg hsame.not_lt, if_pos hsame, ← hsame]
    omega
  · rw [if_neg hbehind.not_gt, if_neg hbehind.ne', if_neg hbehind.not_gt]
    omega

/-- The active sheet stays active when another one is deleted. -/
theorem activeSheet?_withoutSheet (hi : i < w.sheets.length) (hother : i ≠ w.activeIndex) :
    (w.withoutSheet i).activeSheet? = w.activeSheet? := by
  rw [activeSheet?, activeIndex_withoutSheet hi, if_neg hother]
  exact getElem?_eraseIdx_indexAfter hother

/-- Whatever named cells of another sheet names the same cells of that sheet afterwards, with a sheet name
or without. -/
theorem Names.withoutSheet {a : Address} {j : Nat} {s : Sheet} {b : Block} (h : w.Names a j s b)
    (hi : i < w.sheets.length) (hother : i ≠ j) :
    (w.withoutSheet i).Names a (indexAfter i j) s b where
  indexOf?_eq := by
    have hj := h.indexOf?_eq
    rw [indexOf?] at hj ⊢
    cases hsheet : a.sheet with
    | none =>
      rw [hsheet] at hj
      cases hj
      simp only [activeIndex_withoutSheet hi, if_neg hother]
    | some name =>
      rw [hsheet] at hj
      exact findIdx?_eraseIdx hj hother
  sheet_eq := (getElem?_eraseIdx_indexAfter hother).trans h.sheet_eq
  parse?_eq := h.parse?_eq

/-- The first sheet with the name is deleted, the others stay in order, and nothing else changes. If it was
not the active sheet, that one is still active; if it was, the next sheet is, or the last one. The only
sheet of a workbook is not deleted. -/
theorem deleteSheet_found (hi : w.sheetIndex? name = some i) :
    (2 ≤ w.sheets.length →
      ∃ before s after w', w.sheets = before ++ s :: after ∧ before.length = i ∧
        Text.sameIgnoringCase s.name name = true ∧
        (∀ t ∈ before, Text.sameIgnoringCase t.name name = false) ∧
        (host.deleteSheet name).run w = (.ok (), w') ∧
        w'.sheets = before ++ after ∧ w'.selection = w.selection ∧
        (i ≠ w.activeIndex →
          w'.activeIndex = indexAfter i w.activeIndex ∧ w'.activeSheet? = w.activeSheet?) ∧
        (i = w.activeIndex →
          w'.activeIndex = min i (w'.sheets.length - 1) ∧
            w'.activeSheet? = after.head?.or before.getLast?)) ∧
    (w.sheets.length = 1 →
      (host.deleteSheet name).run w = (.error (.error .lastSheet), w)) := by
  constructor
  · intro hlength
    obtain ⟨before, s, after, hsheets, rfl, hs, hbefore⟩ := exists_of_sheetIndex? hi
    have hlt : before.length < w.sheets.length := (sheetIndex?_eq_some_iff.mp hi).1
    have hleft : (w.withoutSheet before.length).sheets = before ++ after := by
      rw [withoutSheet, hsheets, List.eraseIdx_append_of_length_le (Nat.le_refl _), Nat.sub_self,
        List.eraseIdx_cons_zero]
    refine ⟨before, s, after, w.withoutSheet before.length, hsheets, rfl, hs, hbefore, ?_, hleft, rfl,
      fun hother => ?_, fun hsame => ?_⟩
    · show act (·.deleteSheet name) w = _
      rw [act, deleteSheet_eq hi (by omega)]
    · exact ⟨by rw [activeIndex_withoutSheet hlt, if_neg hother], activeSheet?_withoutSheet hlt hother⟩
    · have hindex : (w.withoutSheet before.length).activeIndex =
          min before.length ((w.withoutSheet before.length).sheets.length - 1) := by
        rw [activeIndex_withoutSheet hlt, if_pos hsame]
        rfl
      refine ⟨hindex, ?_⟩
      rw [activeSheet?, hindex, hleft, getElem?_append_min]
  · intro hlength
    show act (·.deleteSheet name) w = _
    rw [act, deleteSheet_eq_error hi hlength]

/-- A workbook with two sheets of one name whose stored number is past the last sheet. -/
def pastLast : Workbook :=
  { withSheets ["Data", "DATA", "Notes"] with active := 7 }

/-- Of two sheets with the name the first one goes, and the last sheet stays active. If that one goes, the
sheet before it is active. -/
theorem deleteSheet_found_pastLast :
    (pastLast.sheetIndex? "data" = some 0 ∧ 2 ≤ pastLast.sheets.length ∧
      ∃ w', (host.deleteSheet "data").run pastLast = (.ok (), w') ∧
        w'.sheets = [{ name := "DATA" }, { name := "Notes" }] ∧ w'.activeIndex = 1 ∧
        w'.activeSheet? = pastLast.activeSheet?) ∧
    (pastLast.sheetIndex? "notes" = some 2 ∧ 2 = pastLast.activeIndex ∧
      ∃ w', (host.deleteSheet "notes").run pastLast = (.ok (), w') ∧
        w'.sheets = [{ name := "Data" }, { name := "DATA" }] ∧ w'.activeIndex = 1 ∧
        w'.activeSheet? = some { name := "DATA" }) ∧
    new.sheetIndex? "sheet1" = some 0 ∧ new.sheets.length = 1 ∧
      (host.deleteSheet "sheet1").run new = (.error (.error .lastSheet), new) := by
  have hdata : pastLast.sheetIndex? "data" = some 0 := by decide +kernel
  have hnotes : pastLast.sheetIndex? "notes" = some 2 := by decide +kernel
  have hsheet1 : new.sheetIndex? "sheet1" = some 0 := by decide +kernel
  refine ⟨⟨hdata, by decide, ?_⟩, ⟨hnotes, rfl, ?_⟩, hsheet1, rfl, (deleteSheet_found hsheet1).2 rfl⟩
  · obtain ⟨before, s, after, w', hsplit, hlength, -, -, hrun, hleft, -, hother, -⟩ :=
      (deleteSheet_found hdata).1 (by decide)
    have hsheets : [] ++ [({ name := "Data" } : Sheet), { name := "DATA" }, { name := "Notes" }] =
        before ++ s :: after := hsplit
    obtain ⟨rfl, hrest⟩ := List.append_inj hsheets hlength.symm
    cases hrest
    exact ⟨w', hrun, hleft, hother (by decide)⟩
  · obtain ⟨before, s, after, w', hsplit, hlength, -, -, hrun, hleft, -, -, hsame⟩ :=
      (deleteSheet_found hnotes).1 (by decide)
    have hsheets : [({ name := "Data" } : Sheet), { name := "DATA" }] ++ [{ name := "Notes" }] =
        before ++ s :: after := hsplit
    obtain ⟨rfl, hrest⟩ := List.append_inj hsheets hlength.symm
    cases hrest
    obtain ⟨hindex, hactive⟩ := hsame rfl
    rw [hleft] at hindex
    exact ⟨w', hrun, hleft, hindex, hactive⟩

end Workbook

end SheetScript
