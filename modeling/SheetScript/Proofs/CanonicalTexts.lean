import SheetScript.Proofs.Notation

/-!
# One notation for each position

A position has many spellings: in either case, with dollar signs, with zeros before its row and with
blanks around it. Its own notation is what is left of any of them without these freedoms. So notation is a
code: it is read back, and different positions are written differently.

- `Text.dropWhile_zero_eq_toDigits`: a numeral without the zeros it starts with is that of its value.
- `Position.exists_of_ofChars?`: the letters and the digits of a spelling.
- `Position.canonicalText`, `Position.text_of_parse?`: a spelling without its freedoms is the notation of
  the position that is read.
- `notation_faithful`: columns, positions and lines are each written in one way, and read as they are
  written.
-/

namespace SheetScript

/-! ## Numerals -/

namespace Text

variable {c : Char} {cs : List Char} {n : Nat}

theorem digitChar_of_isDigit (h : c.isDigit = true) :
    c.toNat - '0'.toNat < 10 ∧ (c.toNat - '0'.toNat).digitChar = c := by
  have hzero : '0'.toNat = 48 := rfl
  rw [isDigit_iff] at h
  have hlt : c.toNat - '0'.toNat < 10 := by omega
  refine ⟨hlt, Char.toNat_inj.mp ?_⟩
  rw [Nat.toNat_digitChar_of_lt_ten hlt]
  omega

theorem digits?_eq_some_iff : digits? cs = some n ↔
    cs ≠ [] ∧ (∀ c ∈ cs, c.isDigit = true) ∧ Nat.ofDigitChars 10 cs 0 = n := by
  simp [digits?, and_assoc]

/-- Digits behind a numeral that is not zero continue it. -/
theorem toDigits_append (h : ∀ c ∈ cs, c.isDigit = true) (hn : 0 < n) :
    Nat.toDigits 10 n ++ cs = Nat.toDigits 10 (Nat.ofDigitChars 10 cs n) := by
  induction cs generalizing n with
  | nil => rw [Nat.ofDigitChars_nil, List.append_nil]
  | cons c cs ih =>
    obtain ⟨hc, hcs⟩ := List.forall_mem_cons.mp h
    obtain ⟨hlt, hchar⟩ := digitChar_of_isDigit hc
    have hone : Nat.toDigits 10 n ++ [c] = Nat.toDigits 10 (10 * n + (c.toNat - '0'.toNat)) := by
      rw [← Nat.toDigits_append_toDigits (by decide) hn hlt, Nat.toDigits_of_lt_base hlt, hchar]
    rw [Nat.ofDigitChars_cons, ← ih hcs (by omega), ← hone, List.append_assoc, List.singleton_append]

/-- A numeral without the zeros it starts with is the numeral of its value. -/
theorem dropWhile_zero_eq_toDigits (h : ∀ c ∈ cs, c.isDigit = true)
    (hpos : 0 < Nat.ofDigitChars 10 cs 0) :
    cs.dropWhile (· == '0') = Nat.toDigits 10 (Nat.ofDigitChars 10 cs 0) := by
  induction cs with
  | nil =>
    rw [Nat.ofDigitChars_nil] at hpos
    exact absurd hpos (Nat.lt_irrefl 0)
  | cons c cs ih =>
    obtain ⟨hc, hcs⟩ := List.forall_mem_cons.mp h
    rw [Nat.ofDigitChars_cons, Nat.mul_zero, Nat.zero_add] at hpos ⊢
    by_cases hzero : c = '0'
    · subst hzero
      rw [List.dropWhile_cons_of_pos rfl]
      exact ih hcs hpos
    · obtain ⟨hlt, hchar⟩ := digitChar_of_isDigit hc
      have hn : 0 < c.toNat - '0'.toNat := by
        by_contra hle
        rw [Nat.eq_zero_of_not_pos hle] at hchar
        exact hzero hchar.symm
      rw [List.dropWhile_cons_of_neg (by simpa using hzero), ← toDigits_append hcs hn,
        Nat.toDigits_of_lt_base hlt, hchar, List.singleton_append]

end Text

namespace Grid

/-! ## Spellings of a position -/

namespace Position

variable {cs : List Char} {p : Position} {s : String}

theorem filter_dropDollar (cs : List Char) :
    (dropDollar cs).filter (· != '$') = cs.filter (· != '$') := by
  unfold dropDollar
  split
  · simp
  · rfl

theorem filter_of_forall (h : ∀ c ∈ cs, c.isAlphanum = true) : cs.filter (· != '$') = cs := by
  rw [List.filter_eq_self]
  intro c hc
  simpa using ne_of_isAlphanum (h c hc) (show '$'.isAlphanum = false from rfl)

/-- Without its dollar signs, a spelling is the letters of the column and then the digits of the row. -/
theorem exists_of_ofChars? (h : ofChars? cs = some p) :
    ∃ letters digits, cs.filter (· != '$') = letters ++ digits ∧
      columnOfLetters? letters = some p.col ∧ Text.digits? digits = some p.row := by
  simp only [ofChars?] at h
  split at h
  next hlength =>
    obtain ⟨col, hcol, h⟩ := Option.bind_eq_some_iff.mp h
    obtain ⟨row, hrow, h⟩ := Option.bind_eq_some_iff.mp h
    obtain ⟨rfl, rfl⟩ := at?_eq_some_iff.mp h
    refine ⟨_, _, ?_, hcol, hrow⟩
    obtain ⟨-, hletters, -⟩ := columnOfLetters?_eq_some_iff.mp hcol
    obtain ⟨-, hdigits, -⟩ := Text.digits?_eq_some_iff.mp hrow
    rw [← filter_dropDollar cs]
    conv_lhs => rw [← List.takeWhile_append_dropWhile (p := Char.isAlpha) (l := dropDollar cs)]
    rw [List.filter_append, ← filter_dropDollar (List.dropWhile _ _), filter_of_forall, filter_of_forall]
    · intro c hc
      simp [Char.isAlphanum, hdigits c hc]
    · intro c hc
      simp [Char.isAlphanum, hletters c hc]
  next => cases h

/-- A spelling without its freedoms: without the blanks around it, in capitals, without dollar signs, and
without the zeros that its row starts with. -/
def canonicalText (s : String) : String :=
  let plain := ((Text.trimChars s.toList).map Char.toUpper).filter (· != '$')
  String.ofList
    (plain.takeWhile Char.isAlpha ++ (plain.dropWhile Char.isAlpha).dropWhile (· == '0'))

/-- Upper case makes dollar signs of no letters. -/
theorem filter_map_toUpper (cs : List Char) :
    (cs.map Char.toUpper).filter (· != '$') = (cs.filter (· != '$')).map Char.toUpper := by
  rw [List.filter_map]
  congr 1
  refine List.filter_congr fun c _ => ?_
  by_cases h : c.isAlpha = true
  · have hdollar : ∀ d : Char, d.isAlpha = true → (d != '$') = true := by
      rintro d hd
      simpa using fun heq : d = '$' => by simp [heq] at hd
    rw [Function.comp_apply, hdollar c h, hdollar _ (by rwa [Char.isAlpha_toUpper_eq_isAlpha])]
  · rw [Function.comp_apply, Text.toUpper_of_not_isAlpha h]

/-- The notation of a position is what every spelling of it comes down to. -/
theorem text_of_parse? (h : parse? s = some p) : p.text = canonicalText s := by
  obtain ⟨letters, digits, hsplit, hcol, hrow⟩ := exists_of_ofChars? h
  obtain ⟨-, hletters, hcol, -⟩ := columnOfLetters?_eq_some_iff.mp hcol
  obtain ⟨-, hdigits, hrow⟩ := Text.digits?_eq_some_iff.mp hrow
  have hplain : ((Text.trimChars s.toList).map Char.toUpper).filter (· != '$') =
      columnLetters p.col ++ digits := by
    rw [filter_map_toUpper, hsplit, List.map_append, ← columnLetters_lettersValue hletters, hcol,
      (List.map_congr_left fun c hc => Text.toUpper_of_isDigit (hdigits c hc)).trans (List.map_id _)]
  have halpha : ∀ c ∈ columnLetters p.col, c.isAlpha = true := fun c hc =>
    isAlpha_of_mem_columnLetters hc
  rw [canonicalText, hplain, Text.takeWhile_isAlpha_append halpha hdigits,
    Text.dropWhile_isAlpha_append halpha hdigits, Text.dropWhile_zero_eq_toDigits hdigits, hrow]
  · rfl
  · rw [hrow]
    exact p.row_mem.1

end Position

/-! ## Notation as a code -/

/-- Columns, positions and lines are each written in one way, and read as they are written. Letters name
the column that is their value in base 26, however long they are, and a column has one name in capitals;
whatever is read as a position is its notation but for blanks around it, letter case, dollar signs and
zeros before the row. -/
theorem notation_faithful :
    (∀ s i, columnIndex? s = some i ↔
      s ≠ "" ∧ (∀ c ∈ s.toList, c.isAlpha = true) ∧
        Nat.ofDigits 26 (s.toList.reverse.map digitOfLetter) = i ∧ i ≤ maxColumns) ∧
    (∀ n s, s = columnName n ↔
      (∀ c ∈ s.toList, c.isUpper = true) ∧
        Nat.ofDigits 26 (s.toList.reverse.map digitOfLetter) = n) ∧
    (∀ p : Position, Position.parse? p.text = some p) ∧
    Function.Injective Position.text ∧
    (∀ l : Span, (l.axis = .rows → Span.rows? l.text = some l) ∧
      (l.axis = .columns → Span.columns? l.text = some l)) ∧
    ∀ s p, Position.parse? s = some p → p.text = Position.canonicalText s := by
  refine ⟨fun s i => ?_, fun n s => ?_, Position.parse?_text, Position.text_injective,
    fun l => ⟨Span.rows?_text, Span.columns?_text⟩, fun s p => Position.text_of_parse?⟩
  · rw [columnIndex?, columnOfLetters?_eq_some_iff, lettersValue_eq_ofDigits, Ne, String.toList_eq_nil_iff]
  · rw [eq_columnName_iff, lettersValue_eq_ofDigits]

/-- The twelfth row of the last column. -/
def lastColumnTwelve : Position :=
  ⟨12, 16384, by decide, by decide⟩

/-- All columns with more than one letter. -/
def wideColumns : Span :=
  ⟨.columns, 27, 16384, by decide, by decide⟩

/-- The rows from the second to the tenth. -/
def twoToTen : Span :=
  ⟨.rows, 2, 10, by decide, by decide⟩

/-- A spelling with all freedoms, a name that is too long for 32 bits, and lines of both axes. -/
theorem notation_faithful_lastColumn :
    (Position.parse? " $xfd$0012 " = some lastColumnTwelve ∧ lastColumnTwelve.text = "XFD12" ∧
      Position.parse? "XFD12" = some lastColumnTwelve) ∧
    (columnIndex? "xfd" = some 16384 ∧ columnName 16384 = "XFD" ∧
      ∀ i, columnIndex? "XFDXFDXFD" ≠ some i) ∧
    (twoToTen.axis = .rows ∧ Span.rows? "2:10" = some twoToTen) ∧
    wideColumns.axis = .columns ∧ Span.columns? "AA:XFD" = some wideColumns := by
  obtain ⟨hindex, hname, hcell, -, hlines, hcanonical⟩ := notation_faithful
  have hspelling : Position.parse? " $xfd$0012 " = some lastColumnTwelve := by decide +kernel
  have htext : lastColumnTwelve.text = "XFD12" :=
    (hcanonical _ _ hspelling).trans (by decide +kernel)
  have hrows : twoToTen.text = "2:10" := by decide +kernel
  have hcolumns : wideColumns.text = "AA:XFD" := by decide +kernel
  simp only [← lettersValue_eq_ofDigits] at hindex hname
  refine ⟨⟨hspelling, htext, htext ▸ hcell lastColumnTwelve⟩, ⟨?_, ?_, fun i hi => ?_⟩,
    ⟨rfl, hrows ▸ (hlines twoToTen).1 rfl⟩, rfl, hcolumns ▸ (hlines wideColumns).2 rfl⟩
  · have hletters : "xfd".toList.all Char.isAlpha := by decide
    exact (hindex "xfd" 16384).mpr
      ⟨by decide, List.all_eq_true.mp hletters, by decide +kernel, by decide⟩
  · have hcapitals : "XFD".toList.all Char.isUpper := by decide
    exact ((hname 16384 "XFD").mpr ⟨List.all_eq_true.mp hcapitals, by decide +kernel⟩).symm
  · obtain ⟨-, -, rfl, hle⟩ := (hindex "XFDXFDXFD" i).mp hi
    exact absurd hle (by decide +kernel)

end Grid

end SheetScript
