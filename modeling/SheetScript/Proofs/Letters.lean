import Mathlib
import SheetScript.Grid.Column
import SheetScript.Proofs.Blanks

/-!
# Numerals of letters

The letters of a column are a numeral in base 26 with the digits 1 to 26. As there is no zero, every
number has exactly one numeral in capitals. Letters are read one by one in 32 bits. The number only grows
on the way, so what leaves 32 bits would not have ended within the grid.

- `Text.toUpper_of_not_isAlpha`: only letters have an upper case.
- `lettersValue_eq_ofDigits`: the value of a numeral, place by place.
- `columnLetters_lettersValue`, `eq_columnName_iff`: the name of a column is the only text in capitals
  with its value.
- `foldlM_appendLetter?_eq_some_iff`: reading in 32 bits is exact as long as the value fits.
- `columnOfLetters?_eq_some_iff`: which letters name a column, and which one.
-/

namespace SheetScript

variable {c : Char} {cs : List Char} {n i : Nat} {s : String}

/-! ## Letter case -/

namespace Text

theorem isUpper_iff : c.isUpper = true ↔ 65 ≤ c.toNat ∧ c.toNat ≤ 90 := by
  have hcodes : c.isUpper = decide (65 ≤ c.toNat ∧ c.toNat ≤ 90) := rfl
  simp [hcodes]

/-- Only letters have an upper case. -/
theorem toUpper_of_not_isAlpha (h : ¬c.isAlpha = true) : c.toUpper = c := by
  have hlower : ¬c.isLower = true := fun hl => h (by simp [Char.isAlpha, hl])
  exact Char.toUpper_eq_of_not_isLower hlower

/-- A digit is no letter to be changed. -/
theorem toUpper_of_isDigit (h : c.isDigit = true) : c.toUpper = c :=
  toUpper_of_not_isAlpha (by simp [isAlpha_of_isDigit h])

theorem toUpper_of_isUpper (h : c.isUpper = true) : c.toUpper = c :=
  Char.toUpper_eq_of_not_isLower (Char.not_isLower_of_isUpper h)

/-- Letters end where digits start. -/
theorem takeWhile_isAlpha_append {digits : List Char} (hcs : ∀ c ∈ cs, c.isAlpha = true)
    (hdigits : ∀ c ∈ digits, c.isDigit = true) : (cs ++ digits).takeWhile Char.isAlpha = cs := by
  rw [List.takeWhile_append_of_pos hcs]
  cases digits with
  | nil => rw [List.takeWhile_nil, List.append_nil]
  | cons d digits =>
    have hd : ¬d.isAlpha = true := by simp [isAlpha_of_isDigit (hdigits d List.mem_cons_self)]
    rw [List.takeWhile_cons_of_neg hd, List.append_nil]

/-- The letters of a reference end where its digits start. -/
theorem dropWhile_isAlpha_append {digits : List Char} (hcs : ∀ c ∈ cs, c.isAlpha = true)
    (hdigits : ∀ c ∈ digits, c.isDigit = true) :
    (cs ++ digits).dropWhile Char.isAlpha = digits := by
  have hsplit := List.takeWhile_append_dropWhile (p := Char.isAlpha) (l := cs ++ digits)
  rwa [takeWhile_isAlpha_append hcs hdigits, List.append_cancel_left_eq] at hsplit

end Text

namespace Grid

/-! ## Digits -/

/-- The digits of letters are 1 to 26, and each of them is a digit for one letter. -/
theorem letterOfDigit_digitOfLetter (h : c.isAlpha = true) :
    (1 ≤ digitOfLetter c ∧ digitOfLetter c ≤ 26) ∧ letterOfDigit (digitOfLetter c) = c.toUpper := by
  have hupper : 65 ≤ c.toUpper.toNat ∧ c.toUpper.toNat ≤ 90 := by
    rw [← Text.isUpper_iff, Char.isUpper_toUpper_eq_isAlpha, h]
  have hcode : 64 + digitOfLetter c = c.toUpper.toNat := by
    unfold digitOfLetter
    omega
  refine ⟨by omega, ?_⟩
  rw [letterOfDigit, hcode, Char.ofNat_toNat]

/-! ## Names -/

theorem columnLetters_ne_nil (h : 0 < n) : columnLetters n ≠ [] := by
  rw [columnLetters_of_pos h]
  simp

/-- Each letter stands for a factor of twenty-six. -/
theorem length_columnLetters_of_pos (h : 0 < n) :
    (columnLetters n).length = (columnLetters ((n - 1) / 26)).length + 1 := by
  rw [columnLetters_of_pos h, List.length_append]
  rfl

/-- The grid has no column with more than three letters. -/
theorem length_columnLetters_le (h : n ≤ maxColumns) : (columnLetters n).length ≤ 3 := by
  -- the last letter takes a factor of 26 off the number, and three of them leave nothing
  have hstep : ∀ m k, (columnLetters ((m - 1) / 26)).length ≤ k →
      (columnLetters m).length ≤ k + 1 := by
    intro m k hk
    rcases Nat.eq_zero_or_pos m with rfl | hm
    · simp
    · rw [length_columnLetters_of_pos hm]
      omega
  refine hstep n 2 (hstep _ 1 (hstep _ 0 ?_))
  have hzero : (((n - 1) / 26 - 1) / 26 - 1) / 26 = 0 := by
    unfold maxColumns at h
    omega
  rw [hzero, columnLetters_zero]
  exact Nat.le_refl 0

/-- One more digit is one more letter. -/
theorem columnLetters_append {d : Nat} (h : 1 ≤ d ∧ d ≤ 26) :
    columnLetters (26 * n + d) = columnLetters n ++ [letterOfDigit d] := by
  have hinit : (26 * n + d - 1) / 26 = n := by omega
  have hlast : (26 * n + d - 1) % 26 + 1 = d := by omega
  rw [columnLetters_of_pos (by omega), hinit, hlast]

theorem isAlpha_of_mem_columnLetters (h : c ∈ columnLetters n) : c.isAlpha = true := by
  induction n using Nat.strongRecOn with
  | ind n ih =>
    rcases Nat.eq_zero_or_pos n with rfl | hn
    · rw [columnLetters_zero] at h
      cases h
    · rw [columnLetters_of_pos hn, List.mem_append, List.mem_singleton] at h
      rcases h with h | rfl
      · exact ih _ (by omega) h
      · exact isAlpha_letterOfDigit _ (by omega) (by omega)

/-- The column that letters stand for is written in the same letters, in capitals. -/
theorem columnLetters_lettersValue (h : ∀ c ∈ cs, c.isAlpha = true) :
    columnLetters (lettersValue cs) = cs.map Char.toUpper := by
  induction cs using List.reverseRecOn with
  | nil => exact columnLetters_zero
  | append_singleton cs c ih =>
    rw [List.forall_mem_append, List.forall_mem_singleton] at h
    obtain ⟨hdigit, hletter⟩ := letterOfDigit_digitOfLetter h.2
    rw [lettersValue_append_singleton, columnLetters_append hdigit, ih h.1, hletter, List.map_append]
    rfl

/-- A column is written in upper case. -/
theorem isUpper_of_mem_columnLetters (h : c ∈ columnLetters n) : c.isUpper = true := by
  have hself : columnLetters n = (columnLetters n).map Char.toUpper := by
    conv_lhs => rw [← lettersValue_columnLetters n]
    exact columnLetters_lettersValue fun c hc => isAlpha_of_mem_columnLetters hc
  rw [hself] at h
  obtain ⟨d, hd, rfl⟩ := List.mem_map.mp h
  rw [Char.isUpper_toUpper_eq_isAlpha, isAlpha_of_mem_columnLetters hd]

/-- The name of a column is the only text in capitals that stands for it. -/
theorem eq_columnName_iff :
    s = columnName n ↔ (∀ c ∈ s.toList, c.isUpper = true) ∧ lettersValue s.toList = n := by
  constructor
  · rintro rfl
    rw [toList_columnName]
    exact ⟨fun c hc => isUpper_of_mem_columnLetters hc, lettersValue_columnLetters n⟩
  · rintro ⟨hupper, rfl⟩
    have hcapitals : s.toList.map Char.toUpper = s.toList :=
      (List.map_congr_left fun c hc => Text.toUpper_of_isUpper (hupper c hc)).trans (List.map_id _)
    rw [columnName, columnLetters_lettersValue, hcapitals, String.ofList_toList]
    intro c hc
    simp [Char.isAlpha, hupper c hc]

/-! ## Values -/

/-- The last letter counts ones, the one before it 26s, and so on. -/
theorem lettersValue_eq_ofDigits (cs : List Char) :
    lettersValue cs = Nat.ofDigits 26 (cs.reverse.map digitOfLetter) := by
  induction cs using List.reverseRecOn with
  | nil => rfl
  | append_singleton cs c ih =>
    rw [lettersValue_append_singleton, List.reverse_concat, List.map_cons, Nat.ofDigits_cons, ih]
    omega

theorem fits32?_eq_some_iff : fits32? n = some i ↔ n = i ∧ i ≤ Text.max32 := by
  rw [fits32?]
  split
  next h => simp; omega
  next h => simp; omega

/-- A letter is appended if the number with it still fits 32 bits. -/
theorem appendLetter?_eq_some_iff :
    appendLetter? n c = some i ↔
      c.isAlpha = true ∧ 26 * n + digitOfLetter c = i ∧ i ≤ Text.max32 := by
  rw [appendLetter?]
  split
  next h =>
    show (fits32? (26 * n)).bind _ = some i ↔ _
    simp only [Option.bind_eq_some_iff, fits32?_eq_some_iff]
    constructor
    · rintro ⟨shifted, ⟨rfl, -⟩, hsum⟩
      exact ⟨h, hsum⟩
    · rintro ⟨-, hsum⟩
      exact ⟨26 * n, ⟨rfl, by omega⟩, hsum⟩
  next h => simp [h]

/-- Letters are read in 32 bits just if their value fits. No step on the way leaves 32 bits then, since
the number only grows. -/
theorem foldlM_appendLetter?_eq_some_iff :
    cs.foldlM appendLetter? 0 = some i ↔
      (∀ c ∈ cs, c.isAlpha = true) ∧ lettersValue cs = i ∧ i ≤ Text.max32 := by
  induction cs using List.reverseRecOn generalizing i with
  | nil =>
    rw [List.foldlM_nil]
    constructor
    · rintro ⟨⟩
      exact ⟨List.forall_mem_nil _, rfl, Nat.zero_le _⟩
    · rintro ⟨-, rfl, -⟩
      rfl
  | append_singleton cs c ih =>
    have hstep : (cs ++ [c]).foldlM appendLetter? 0 =
        (cs.foldlM appendLetter? 0).bind fun n => appendLetter? n c := by
      simp [List.foldlM_append]
    rw [hstep, List.forall_mem_append, List.forall_mem_singleton, lettersValue_append_singleton]
    simp only [Option.bind_eq_some_iff, ih, appendLetter?_eq_some_iff]
    constructor
    · rintro ⟨n, ⟨hcs, rfl, -⟩, hc, hi⟩
      exact ⟨⟨hcs, hc⟩, hi⟩
    · rintro ⟨⟨hcs, hc⟩, hi⟩
      exact ⟨lettersValue cs, ⟨hcs, rfl, by omega⟩, hc, hi⟩

/-- A column is named by letters, at least one of them, whose value is the column. -/
theorem columnOfLetters?_eq_some_iff :
    columnOfLetters? cs = some i ↔
      cs ≠ [] ∧ (∀ c ∈ cs, c.isAlpha = true) ∧ lettersValue cs = i ∧ i ≤ maxColumns := by
  rw [columnOfLetters?]
  split
  next h => simp [h]
  next h =>
    rw [Option.filter_eq_some_iff, foldlM_appendLetter?_eq_some_iff]
    have hgrid : maxColumns ≤ Text.max32 := by decide
    constructor
    · rintro ⟨⟨hcs, hi, -⟩, hcolumn⟩
      exact ⟨h, hcs, hi, of_decide_eq_true hcolumn⟩
    · rintro ⟨-, hcs, hi, hcolumn⟩
      exact ⟨⟨hcs, hi, hcolumn.trans hgrid⟩, decide_eq_true hcolumn⟩

/-- The letters of a column of the grid name that column. -/
theorem columnOfLetters?_columnLetters (h : 1 ≤ n ∧ n ≤ maxColumns) :
    columnOfLetters? (columnLetters n) = some n :=
  columnOfLetters?_eq_some_iff.mpr ⟨columnLetters_ne_nil h.1,
    fun _ hc => isAlpha_of_mem_columnLetters hc, lettersValue_columnLetters n, h.2⟩

end Grid

end SheetScript
