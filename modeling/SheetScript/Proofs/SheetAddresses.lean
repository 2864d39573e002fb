import SheetScript.Proofs.SheetNames
import SheetScript.Proofs.Validity

/-!
# Addresses that are written and read again

An address that was read is read again from its own notation, and so is any cell of the same sheet. A
sheet is found through the notation of an address if and only if its name can be read from it, and the
commands that name sheets let in other names as well.

- `Workbook.resolveText`: what a text names.
- `Address.reread_of_parse`: addresses that were read are written and read again.
- `Address.exists_sheet_of_parse_text`: what is read of any name.
- `Workbook.addressable_iff`: the sheets that can be addressed.
-/

namespace SheetScript

open Grid

namespace Grid.Address

instance (name : String) : Decidable (IsSheetName name) :=
  decidable_of_iff ((name.toList ≠ [] ∧ Text.trimChars name.toList = name.toList) ∧
      quote ∉ name.toList ∧ '!' ∉ name.toList)
    ⟨fun h => ⟨h.1.1, h.1.2, h.2.1, h.2.2⟩,
      fun h => ⟨⟨h.ne_nil, h.trim⟩, h.quote_notMem, h.mark_notMem⟩⟩

/-- What stands before the first exclamation mark of a notation is part of the name in quotes. -/
theorem takeWhile_prefix_sheetText (name : String) (rest : List Char) :
    (sheetText name ++ '!' :: rest).takeWhile (· != '!') <+: sheetText name := by
  rw [List.takeWhile_append]
  split
  · rw [List.takeWhile_cons_of_neg (by simp), List.append_nil]
  · exact List.takeWhile_prefix _

/-- A sheet name is read from its notation with no characters that it does not have. -/
theorem exists_sheet_of_parse_text {name reference : String} {a : Address}
    (h : parse (text ⟨some name, reference⟩) = .ok a) :
    ∃ read, a.sheet = some read ∧ read.toList.Sublist name.toList := by
  rw [parse, trimChars_text_of_sheet] at h
  have hsublist : (sheetChars ((sheetText name ++ '!' :: Text.trimEnd reference.toList).takeWhile
      (· != '!'))).Sublist name.toList := by
    refine (Text.trimChars_sublist _).trans ?_
    refine ((takeWhile_prefix_sheetText name _).sublist.filter _).trans ?_
    rw [filter_sheetText]
    exact List.filter_sublist
  simp only [ofChars] at h
  split at h
  next =>
    split_ifs at h
    cases h
    exact ⟨_, rfl, by rwa [String.toList_ofList]⟩
  next hdrop =>
    -- the exclamation mark is there
    have hmark := List.dropWhile_eq_nil_iff.mp hdrop '!' (by simp)
    simp at hmark

end Grid.Address

/-! ## Texts that name a block -/

namespace Workbook

/-- The index of the sheet and the block that a text names. -/
def resolveText (w : Workbook) (text : String) : Except HostError (Nat × Block) := do
  w.resolve (← (Address.parse text).mapError .badAddress)

variable {w : Workbook} {a : Address} {i : Nat} {s : Sheet} {b : Block} {reference text : String}

theorem resolveText_of_parse_ok (h : Address.parse text = .ok a) :
    w.resolveText text = w.resolve a := by
  rw [resolveText, h]
  rfl

/-- Another block of the sheet that an address is about. -/
theorem resolve_withReference (h : w.resolve a = .ok (i, b)) {b' : Block}
    (hreference : Block.parse? reference = some b') :
    w.resolve (a.withReference reference) = .ok (i, b') := by
  obtain ⟨hi, -⟩ := resolve_eq_ok_iff.mp h
  exact resolve_eq_ok_iff.mpr ⟨hi, hreference⟩

end Workbook

namespace Grid.Address

/-- An address that was read from a text is read from its own notation again, and so is the address of any
cell of the same sheet. So they name what they named before, or are refused for the same reason. -/
theorem reread_of_parse {t : String} {a : Address} (h : parse t = .ok a) :
    (parse a.text = .ok a ∧
      ∀ p : Position, parse (a.withReference p.text).text = .ok ⟨a.sheet, p.text⟩) ∧
    ∀ w : Workbook, w.resolveText a.text = w.resolve a ∧
      ∀ p : Position, w.resolveText (a.withReference p.text).text = w.resolve ⟨a.sheet, p.text⟩ ∧
        ∀ i b, w.resolve a = .ok (i, b) →
          w.resolveText (a.withReference p.text).text = .ok (i, .ofCorners p p) := by
  have hself := parse_text (wellFormed_of_parse h)
  have hcell : ∀ p : Position,
      parse (a.withReference p.text).text = .ok (a.withReference p.text) := fun p =>
    parse_text ((wellFormed_of_parse h).withReference p)
  refine ⟨⟨hself, hcell⟩, fun w => ⟨Workbook.resolveText_of_parse_ok hself, fun p => ?_⟩⟩
  have hread : w.resolveText (a.withReference p.text).text = w.resolve (a.withReference p.text) :=
    Workbook.resolveText_of_parse_ok (hcell p)
  refine ⟨hread, fun i b hresolve => ?_⟩
  rw [hread]
  exact Workbook.resolve_withReference hresolve (Block.parse?_text p)

/-- Blanks around the parts and stray quotes are lost, and what follows the first exclamation mark is
kept. -/
theorem reread_of_parse_strayQuotes :
    parse " 'My ' Data' ! A1!B2 " = .ok ⟨some "My  Data", "A1!B2"⟩ ∧
    parse "'My  Data'!A1!B2" = .ok ⟨some "My  Data", "A1!B2"⟩ ∧
    parse (text ⟨some "My  Data", "C3"⟩) = .ok ⟨some "My  Data", "C3"⟩ := by
  have hparse : parse " 'My ' Data' ! A1!B2 " = .ok ⟨some "My  Data", "A1!B2"⟩ := by decide +kernel
  obtain ⟨⟨hself, hcell⟩, -⟩ := reread_of_parse hparse
  have htext : text ⟨some "My  Data", "A1!B2"⟩ = "'My  Data'!A1!B2" := by decide +kernel
  have hreference : Position.text ⟨3, 3, by decide, by decide⟩ = "C3" := by decide +kernel
  have hthird := hcell ⟨3, 3, by decide, by decide⟩
  rw [hreference] at hthird
  exact ⟨hparse, htext ▸ hself, hthird⟩

end Grid.Address

/-! ## Sheets that can be addressed -/

namespace Workbook

variable {w : Workbook} {i : Nat} {s : Sheet} {b : Block} {reference : String}

theorem trimChars_ne_nil_of_parse? (h : Block.parse? reference = some b) :
    Text.trimChars reference.toList ≠ [] := by
  intro hblank
  rw [Block.parse?, hblank] at h
  cases h

/-- With distinct sheet names, the notation of an address leads to a sheet exactly if the name of the
sheet can be read from it. -/
theorem resolveText_text_iff (hw : w.NamesDistinct) (hs : w.sheets[i]? = some s)
    (hreference : Block.parse? reference = some b) :
    w.resolveText (Address.text ⟨some s.name, reference⟩) = .ok (i, b) ↔
      Address.IsSheetName s.name := by
  constructor
  · intro h
    rw [resolveText] at h
    cases hparse : Address.parse (Address.text ⟨some s.name, reference⟩) with
    | error e =>
      rw [hparse] at h
      cases h
    | ok a =>
      rw [hparse] at h
      obtain ⟨read, hread, hsub⟩ := Address.exists_sheet_of_parse_text hparse
      obtain ⟨hi, -⟩ := resolve_eq_ok_iff.mp h
      rw [indexOf?, hread] at hi
      -- the name that was read leads to the same sheet, so no character of it was lost
      obtain ⟨t, ht, hsame⟩ := hw.sheetIndex?_eq_some_iff.mp hi
      obtain rfl : s = t := Option.some.inj (hs.symm.trans ht)
      have hname := (Address.wellFormed_of_parse hparse).isSheetName hread
      rwa [Text.eq_of_sublist hsub hsame] at hname
  · intro hname
    have hparse := Address.parse_text_of_sheet hname (trimChars_ne_nil_of_parse? hreference)
    rw [resolveText_of_parse_ok hparse, resolve_eq_ok_iff]
    have hi := hw.sheetIndex?_eq_some_iff.mpr ⟨s, hs, Text.sameIgnoringCase_refl s.name⟩
    refine ⟨hi, ?_⟩
    rwa [Block.parse?, Text.toList_trim, Text.trimChars_trimChars]

/-- In a workbook that came about by actions on a new one, the notation of an address with the name of a
sheet leads to that sheet exactly if the name is not empty and has no quotes, no exclamation mark and no
blanks at its ends. Such a name is then read as it is. -/
theorem addressable_iff {actions : List Action} {ed ed' : Editor}
    (hrun : runActions actions ed .new = .ok (ed', w)) (hs : w.sheets[i]? = some s)
    (hreference : Block.parse? reference = some b) :
    (w.resolveText (Address.text ⟨some s.name, reference⟩) = .ok (i, b) ↔
      Address.IsSheetName s.name) ∧
    (Address.IsSheetName s.name →
      Address.parse (Address.text ⟨some s.name, reference⟩) =
        .ok ⟨some s.name, Text.trim reference⟩) := by
  have hw : w.Valid := valid_of_runActions valid_new hrun
  exact ⟨resolveText_text_iff hw.names_distinct hs hreference, fun hname =>
    Address.parse_text_of_sheet hname (trimChars_ne_nil_of_parse? hreference)⟩

/-- A new workbook with one more sheet. -/
def newWith (name : String) : Workbook where
  sheets := [{ name := firstSheetName }, { name }]

/-- A name of two words, which is written in quotes. -/
theorem addressable_iff_twoWords :
    ∃ ed b, runActions [.turn "CREATE_SHEET|My Data"] {} .new = .ok (ed, newWith "My Data") ∧
      Address.text ⟨some "My Data", "B2"⟩ = "'My Data'!B2" ∧
      Block.parse? "B2" = some b ∧ b.positions.map Position.text = ["B2"] ∧
      (newWith "My Data").resolveText "'My Data'!B2" = .ok (1, b) := by
  have hbook : (runActions [.turn "CREATE_SHEET|My Data"] {} .new).map Prod.snd =
      .ok (newWith "My Data") := by decide +kernel
  obtain ⟨⟨ed, w⟩, hrun, hw⟩ := map_eq_ok_iff.mp hbook
  obtain rfl : w = newWith "My Data" := hw
  have hs : (newWith "My Data").sheets[1]? = some { name := "My Data" } := rfl
  have hcell : (Block.parse? "B2").map (fun b => b.positions.map Position.text) =
      some ["B2"] := by decide +kernel
  obtain ⟨b, hreference, hpositions⟩ := Option.map_eq_some_iff.mp hcell
  have htext : Address.text ⟨some "My Data", "B2"⟩ = "'My Data'!B2" := by decide +kernel
  have hread := (addressable_iff hrun hs hreference).1.mpr (by decide +kernel)
  exact ⟨ed, b, hrun, htext, hreference, hpositions, htext ▸ hread⟩

/-- A name that ends in an exclamation mark is written in quotes as well, but read up to that mark. -/
theorem resolveText_markedName :
    (runActions [.turn "CREATE_SHEET|Wow!"] {} .new).map Prod.snd = .ok (newWith "Wow!") ∧
    Address.text ⟨some "Wow!", "B2"⟩ = "'Wow!'!B2" ∧
    Address.parse "'Wow!'!B2" = .ok ⟨some "Wow", "'!B2"⟩ ∧
    (newWith "Wow!").resolveText "'Wow!'!B2" = .error (.sheetNotFound "Wow") := by
  refine ⟨?_, ?_, ?_, ?_⟩ <;> decide +kernel

end Workbook

end SheetScript
