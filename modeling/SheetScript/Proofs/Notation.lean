import Mathlib
import SheetScript.Grid.Address
import SheetScript.Grid.Block
import SheetScript.Proofs.Blanks
import SheetScript.Proofs.Letters

/-!
# Notation round trips

Inverse commands are written as text and read again. Here every notation they use is shown to be read
as what it was written for.

- `Span.rows?_text`, `Span.columns?_text`: whole rows and whole columns.
- `Position.parse?_text`, `Block.parse?_text`: one cell in A1 notation; `Block.parse?_rows`: whole rows as
  a block.
- `Address.WellFormed`: the addresses that come out of reading a text; `Address.parse_text` reads them
  again from their own text, and `Address.parse_text_of_sheet` those with a name that can be read.
-/

namespace SheetScript

namespace Grid

/-! ## Whole rows and columns -/

/-- A number is written in digits. -/
theorem isDigit_of_mem_toDigits {n : Nat} {c : Char} (h : c ∈ Nat.toDigits 10 n) :
    c.isDigit = true :=
  Nat.isDigit_of_mem_toDigits (by decide) (by decide) h

theorem ne_of_isAlphanum {c d : Char} (h : c.isAlphanum = true) (hd : d.isAlphanum = false) :
    c ≠ d := by
  rintro rfl
  rw [h] at hd
  cases hd

theorem isAlphanum_of_mem_toDigits {n : Nat} {c : Char} (h : c ∈ Nat.toDigits 10 n) :
    c.isAlphanum = true := by
  simp [Char.isAlphanum, isDigit_of_mem_toDigits h]

/-- A column is written in letters. -/
theorem isAlphanum_of_mem_columnLetters {n : Nat} {c : Char} (h : c ∈ columnLetters n) :
    c.isAlphanum = true := by
  simp [Char.isAlphanum, isAlpha_of_mem_columnLetters h]

namespace Span

/-- The notation of one line of an axis. -/
def lineChars : Axis → Nat → List Char
  | .rows, n => Nat.toDigits 10 n
  | .columns, n => columnLetters n

theorem toList_lineText (axis : Axis) (n : Nat) : (lineText axis n).toList = lineChars axis n := by
  cases axis with
  | rows => exact Nat.toList_repr
  | columns => exact toList_columnName n

/-- So the text of a line holds no blank, no colon and no dollar sign. -/
theorem isAlphanum_of_mem_lineChars {axis : Axis} {n : Nat} {c : Char}
    (h : c ∈ lineChars axis n) : c.isAlphanum = true := by
  cases axis with
  | rows => exact isAlphanum_of_mem_toDigits h
  | columns => exact isAlphanum_of_mem_columnLetters h

/-- The text of a span is its first line, a colon and its last line. -/
theorem toList_text (s : Span) :
    s.text.toList = lineChars s.axis s.first ++ ':' :: lineChars s.axis s.last := by
  simp [text, toList_lineText]

/-- It has no blanks at its ends. -/
theorem trimChars_text (s : Span) : Text.trimChars s.text.toList = s.text.toList := by
  refine Text.trimChars_of_forall fun c hc => ?_
  rw [toList_text, List.mem_append, List.mem_cons] at hc
  rcases hc with hc | rfl | hc
  · exact Text.isBlank_of_isAlphanum (isAlphanum_of_mem_lineChars hc)
  · rfl
  · exact Text.isBlank_of_isAlphanum (isAlphanum_of_mem_lineChars hc)

/-- It is cut at its colon into the two lines. -/
theorem halves?_text (s : Span) :
    halves? s.text.toList = some (lineChars s.axis s.first, lineChars s.axis s.last) := by
  have hcolon : ∀ {n}, ':' ∉ lineChars s.axis n := fun h =>
    ne_of_isAlphanum (isAlphanum_of_mem_lineChars h) (by decide) rfl
  rw [halves?, toList_text, List.splitOn_append_cons_self_of_not_mem hcolon,
    List.splitOn_eq_singleton hcolon]

/-- A span is the one between its own ends. -/
theorem make?_first_last (s : Span) : make? s.axis s.first s.last = some s := by
  have hs := s.ordered
  have hw := s.within
  have hmin : min s.first s.last = s.first := by omega
  have hmax : max s.first s.last = s.last := by omega
  rw [make?, dif_pos (by omega)]
  exact congrArg some (Span.ext rfl hmin hmax)

/-- The text of rows is read as those rows. -/
theorem rowsOfChars?_text {s : Span} (h : s.axis = .rows) : rowsOfChars? s.text.toList = some s := by
  have hs := s.make?_first_last
  rw [h] at hs
  simp [rowsOfChars?, halves?_text, h, lineChars, hs]

/-- Whole rows are read from their own text. -/
theorem rows?_text {s : Span} (h : s.axis = .rows) : rows? s.text = some s := by
  rw [rows?, trimChars_text, rowsOfChars?_text h]

theorem columnsOfChars?_text {s : Span} (h : s.axis = .columns) :
    columnsOfChars? s.text.toList = some s := by
  have hs := s.make?_first_last
  have ho := s.ordered
  have hw := s.within
  rw [h] at hs hw
  change s.last ≤ maxColumns at hw
  have hlast := length_columnLetters_le hw
  have hfirst := length_columnLetters_le (Nat.le_trans ho.2 hw)
  simp [columnsOfChars?, halves?_text, h, lineChars, hlast, hfirst,
    columnOfLetters?_columnLetters (n := s.first) (by omega),
    columnOfLetters?_columnLetters (n := s.last) (by omega), hs]

/-- Whole columns are read from their own text. -/
theorem columns?_text {s : Span} (h : s.axis = .columns) : columns? s.text = some s := by
  rw [columns?, trimChars_text, columnsOfChars?_text h]

end Span

/-- Whole rows are the block that their text refers to. -/
theorem Block.parse?_rows {s : Span} (h : s.axis = .rows) :
    Block.parse? s.text = some (Block.ofSpan s) := by
  rw [Block.parse?, Span.trimChars_text, Block.ofChars?, Span.rowsOfChars?_text h]

/-! ## Cells -/

namespace Position

theorem isAlphanum_of_mem_chars {p : Position} {c : Char} (h : c ∈ p.chars) :
    c.isAlphanum = true := by
  rcases List.mem_append.mp h with h | h
  · exact isAlphanum_of_mem_columnLetters h
  · exact isAlphanum_of_mem_toDigits h

/-- Letters and digits have no dollar sign to drop. -/
theorem dropDollar_of_forall {cs : List Char} (h : ∀ c ∈ cs, c.isAlphanum = true) :
    dropDollar cs = cs := by
  unfold dropDollar
  split
  · exact absurd (h '$' (by simp)) (by decide)
  · rfl

/-- A position is read from its own notation. -/
theorem ofChars?_chars (p : Position) : ofChars? p.chars = some p := by
  have hletters : ∀ c ∈ columnLetters p.col, c.isAlpha = true := fun c hc =>
    isAlpha_of_mem_columnLetters hc
  have hdigits : ∀ c ∈ Nat.toDigits 10 p.row, c.isDigit = true := fun c hc =>
    isDigit_of_mem_toDigits hc
  have htake : p.chars.takeWhile Char.isAlpha = columnLetters p.col :=
    Text.takeWhile_isAlpha_append hletters hdigits
  have hdrop : p.chars.dropWhile Char.isAlpha = Nat.toDigits 10 p.row :=
    Text.dropWhile_isAlpha_append hletters hdigits
  rw [ofChars?, dropDollar_of_forall fun c hc => isAlphanum_of_mem_chars hc]
  simp only [htake, hdrop]
  rw [if_pos (length_columnLetters_le p.col_mem.2), columnOfLetters?_columnLetters p.col_mem,
    dropDollar_of_forall fun c hc => isAlphanum_of_mem_toDigits hc, Text.digits?_toDigits]
  exact at?_row_col p

theorem trimChars_chars (p : Position) : Text.trimChars p.chars = p.chars :=
  Text.trimChars_of_forall fun _ hc => Text.isBlank_of_isAlphanum (isAlphanum_of_mem_chars hc)

@[simp] theorem toList_text (p : Position) : p.text.toList = p.chars :=
  String.toList_ofList

/-- The text of a position is read as that position. -/
theorem parse?_text (p : Position) : parse? p.text = some p := by
  rw [parse?, toList_text, trimChars_chars, ofChars?_chars]

/-- Different positions have different texts. -/
theorem text_injective : Function.Injective text := by
  intro p q h
  have hparse := parse?_text p
  rw [h, parse?_text q] at hparse
  exact (Option.some.inj hparse).symm

end Position

/-- A cell is the block that its notation refers to. -/
theorem Block.parse?_text (p : Position) : Block.parse? p.text = some (Block.ofCorners p p) := by
  have hcolon : ':' ∉ p.chars := fun h =>
    ne_of_isAlphanum (Position.isAlphanum_of_mem_chars h) (by decide) rfl
  have hhalves : Span.halves? p.chars = none := by
    rw [Span.halves?, List.splitOn_eq_singleton hcolon]
  rw [Block.parse?, Position.toList_text, Position.trimChars_chars, Block.ofChars?]
  simp [Span.rowsOfChars?, Span.columnsOfChars?, hhalves, Block.ofCornerChars?,
    List.splitOn_eq_singleton hcolon, Position.trimChars_chars, Position.ofChars?_chars]

/-! ## Addresses -/

namespace Address

/-- What holds of every address that was read from a text: neither part is empty or has blanks at its
ends, and nothing in it ends the sheet name too early. -/
structure WellFormed (a : Address) : Prop where
  reference_ne_nil : a.reference.toList ≠ []
  trim_reference : Text.trimChars a.reference.toList = a.reference.toList
  mark_notMem_reference : a.sheet = none → '!' ∉ a.reference.toList
  sheet_ne_nil : ∀ name ∈ a.sheet, name.toList ≠ []
  trim_sheet : ∀ name ∈ a.sheet, Text.trimChars name.toList = name.toList
  quote_notMem_sheet : ∀ name ∈ a.sheet, quote ∉ name.toList
  mark_notMem_sheet : ∀ name ∈ a.sheet, '!' ∉ name.toList

/-- What a sheet name has to be like so that it can be read from the notation of an address. -/
structure IsSheetName (name : String) : Prop where
  ne_nil : name.toList ≠ []
  trim : Text.trimChars name.toList = name.toList
  quote_notMem : quote ∉ name.toList
  mark_notMem : '!' ∉ name.toList

/-- The sheet name of an address that was read can be written and read again. -/
theorem WellFormed.isSheetName {a : Address} (h : a.WellFormed) {name : String}
    (hname : a.sheet = some name) : IsSheetName name :=
  ⟨h.sheet_ne_nil name hname, h.trim_sheet name hname, h.quote_notMem_sheet name hname,
    h.mark_notMem_sheet name hname⟩

/-- Reading a text gives a well-formed address. -/
theorem wellFormed_of_parse {s : String} {a : Address} (h : parse s = .ok a) : a.WellFormed := by
  simp only [parse, ofChars] at h
  split at h
  next mark after hdrop =>
    split at h
    · cases h
    split at h
    · cases h
    next hsheet hreference =>
      cases h
      -- the name is the part before the first mark, and its quotes were taken out
      have hmem : ∀ c ∈ sheetChars ((Text.trimChars s.toList).takeWhile (· != '!')),
          c ≠ quote ∧ c ≠ '!' := by
        intro c hc
        have hc := List.mem_filter.mp (Text.mem_of_mem_trimChars hc)
        exact ⟨by simpa using hc.2, by simpa using List.mem_takeWhile_imp hc.1⟩
      constructor <;> simp
      · exact hreference
      · exact hsheet
      · rw [sheetChars, Text.trimChars_trimChars]
      · exact fun hc => (hmem _ hc).1 rfl
      · exact fun hc => (hmem _ hc).2 rfl
  next hdrop =>
    split at h
    · cases h
    next hne =>
      cases h
      constructor <;> simp
      · exact hne
      · intro hmark
        have := (List.dropWhile_eq_nil_iff.mp hdrop) '!' hmark
        simp at this

@[simp] theorem text_bare (reference : String) : text ⟨none, reference⟩ = reference := rfl

/-- What stands before the exclamation mark in the notation of an address with a sheet name. -/
def sheetText (name : String) : List Char :=
  if isPlainName name then name.toList else quote :: (name.toList ++ [quote])

theorem toList_text_of_sheet (name reference : String) :
    (text ⟨some name, reference⟩).toList = sheetText name ++ '!' :: reference.toList := by
  simp only [text, sheetText]
  split
  · simp
  · simp

/-- The quotes around a sheet name go when it is read. -/
theorem filter_sheetText (name : String) :
    (sheetText name).filter (· != quote) = name.toList.filter (· != quote) := by
  rw [sheetText]
  split
  · rfl
  · simp

/-- No blanks are lost at the start: the name, or a quote, or the exclamation mark stands there. -/
theorem trimStart_sheetText (name : String) (rest : List Char) :
    Text.trimStart (sheetText name ++ '!' :: rest) = sheetText name ++ '!' :: rest := by
  rw [sheetText]
  split
  next hplain =>
    cases hname : name.toList with
    | nil => exact Text.trimStart_of_head (by decide)
    | cons c cs =>
      refine Text.trimStart_of_head ?_
      rw [isPlainName, hname, List.all_cons, Bool.and_eq_true, Bool.or_eq_true, beq_iff_eq] at hplain
      rcases hplain.1 with hc | rfl
      · exact Text.isBlank_of_isAlphanum hc
      · rfl
  next => exact Text.trimStart_of_head (by decide)

/-- In the text of an address only the end of the reference can be trimmed. -/
theorem trimChars_text_of_sheet (name reference : String) :
    Text.trimChars (text ⟨some name, reference⟩).toList =
      sheetText name ++ '!' :: Text.trimEnd reference.toList := by
  have hmark : ∃ c ∈ '!' :: reference.toList, Text.isBlank c = false :=
    ⟨'!', List.mem_cons_self, by decide⟩
  rw [toList_text_of_sheet, Text.trimChars, trimStart_sheetText, Text.trimEnd_append hmark,
    Text.trimEnd_cons hmark]

/-- A sheet name is read as it was, whether it was put in quotes or not. -/
theorem sheetChars_sheetText {name : String} (h : IsSheetName name) :
    sheetChars (sheetText name) = name.toList := by
  have hquote : name.toList.filter (· != quote) = name.toList := by
    rw [List.filter_eq_self]
    intro c hc
    simpa using fun heq : c = quote => h.quote_notMem (heq ▸ hc)
  rw [sheetChars, filter_sheetText, hquote, h.trim]

/-- Quotes bring no exclamation mark with them. -/
theorem mark_notMem_sheetText {name : String} (h : '!' ∉ name.toList) : '!' ∉ sheetText name := by
  have hquote : ('!' : Char) ≠ quote := by decide
  rw [sheetText]
  split
  · exact h
  · simp [h, hquote]

/-- A sheet name that can be read and a reference are read from their notation. -/
theorem parse_text_of_sheet {name reference : String} (hname : IsSheetName name)
    (hreference : Text.trimChars reference.toList ≠ []) :
    parse (text ⟨some name, reference⟩) = .ok ⟨some name, Text.trim reference⟩ := by
  have hmark : ∀ c ∈ sheetText name, (c != '!') = true := fun c hc => by
    simpa using fun heq : c = '!' => mark_notMem_sheetText hname.mark_notMem (heq ▸ hc)
  rw [parse, trimChars_text_of_sheet, ofChars, List.dropWhile_append_of_pos hmark,
    List.takeWhile_append_of_pos hmark]
  simp [sheetChars_sheetText hname, hname.ne_nil, hreference, Text.trim, pure, Except.pure]

/-- A well-formed address is read from its own text. -/
theorem parse_text {a : Address} (h : a.WellFormed) : parse a.text = .ok a := by
  obtain ⟨sheet, reference⟩ := a
  have hreference : reference.toList ≠ [] := h.reference_ne_nil
  have htrim : Text.trimChars reference.toList = reference.toList := h.trim_reference
  cases sheet with
  | none =>
    have hmark : ∀ c ∈ reference.toList, (c != '!') = true := fun c hc => by
      simpa using fun heq : c = '!' => h.mark_notMem_reference rfl (heq ▸ hc)
    rw [parse, text, htrim, ofChars, List.dropWhile_eq_nil_iff.mpr hmark]
    simp [hreference, pure, Except.pure]
  | some name =>
    rw [parse_text_of_sheet (h.isSheetName rfl) (htrim.symm ▸ hreference), Text.trim, htrim,
      String.ofList_toList]

/-- A reference to the active sheet that is made of letters, digits and colons is well-formed. -/
theorem wellFormed_of_forall {reference : String} (hne : reference.toList ≠ [])
    (h : ∀ c ∈ reference.toList, c.isAlphanum = true ∨ c = ':') :
    (⟨none, reference⟩ : Address).WellFormed where
  reference_ne_nil := hne
  trim_reference := by
    refine Text.trimChars_of_forall fun c hc => ?_
    rcases h c hc with hc | rfl
    · exact Text.isBlank_of_isAlphanum hc
    · rfl
  mark_notMem_reference _ hmark := by
    rcases h _ hmark with hc | hc
    · exact ne_of_isAlphanum hc (by decide) rfl
    · exact absurd hc (by decide)
  sheet_ne_nil _ hname := absurd hname (by simp)
  trim_sheet _ hname := absurd hname (by simp)
  quote_notMem_sheet _ hname := absurd hname (by simp)
  mark_notMem_sheet _ hname := absurd hname (by simp)

/-- A cell of the active sheet is a well-formed address. -/
theorem wellFormed_cell (p : Position) : (⟨none, p.text⟩ : Address).WellFormed := by
  refine wellFormed_of_forall ?_ fun c hc => Or.inl ?_
  · rw [Position.toList_text]
    exact fun hnil => columnLetters_ne_nil p.col_mem.1 (List.append_eq_nil_iff.mp hnil).1
  · rw [Position.toList_text] at hc
    exact Position.isAlphanum_of_mem_chars hc

/-- A cell of the sheet of a well-formed address is one as well. -/
theorem WellFormed.withReference {a : Address} (h : a.WellFormed) (p : Position) :
    (a.withReference p.text).WellFormed where
  reference_ne_nil := (wellFormed_cell p).reference_ne_nil
  trim_reference := (wellFormed_cell p).trim_reference
  mark_notMem_reference _ := (wellFormed_cell p).mark_notMem_reference rfl
  sheet_ne_nil := h.sheet_ne_nil
  trim_sheet := h.trim_sheet
  quote_notMem_sheet := h.quote_notMem_sheet
  mark_notMem_sheet := h.mark_notMem_sheet

/-- Lines of the active sheet are a well-formed address. -/
theorem wellFormed_lines (s : Span) : (⟨none, s.text⟩ : Address).WellFormed := by
  refine wellFormed_of_forall (by simp [Span.toList_text]) fun c hc => ?_
  rw [Span.toList_text, List.mem_append, List.mem_cons] at hc
  rcases hc with hc | hc | hc
  · exact Or.inl (Span.isAlphanum_of_mem_lineChars hc)
  · exact Or.inr hc
  · exact Or.inl (Span.isAlphanum_of_mem_lineChars hc)

/-- Lines of the active sheet are an address that is read from its own text. -/
theorem parse_lines (s : Span) : parse s.text = .ok ⟨none, s.text⟩ := by
  have h := parse_text (wellFormed_lines s)
  rwa [text_bare] at h

end Address

end Grid

end SheetScript
