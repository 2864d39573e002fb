import Mathlib
import SheetScript.Command.Basic
import SheetScript.Proofs.Letters

/-!
# Kinds and their names

Kinds are written as names and found under names, in any case and with blanks around them. A kind that
has been found once is found again under its own name.

- `Kind.name_ofName`: the name of the kind that is found under some name.
- `Kind.IsNamed`, `Kind.isNamed_ofName`: kinds that are found under their own names.
-/

namespace SheetScript

namespace Text

/-- Upper case makes blanks of no letters. -/
theorem isBlank_toUpper (c : Char) : isBlank c.toUpper = isBlank c := by
  by_cases h : c.isAlpha = true
  · have halnum : ∀ d : Char, d.isAlpha = true → d.isAlphanum = true := fun d hd => by
      simp [Char.isAlphanum, hd]
    rw [isBlank_of_isAlphanum (halnum c h),
      isBlank_of_isAlphanum (halnum _ (by rwa [Char.isAlpha_toUpper_eq_isAlpha]))]
  · rw [toUpper_of_not_isAlpha h]

theorem isAlphanum_toUpper (c : Char) : c.toUpper.isAlphanum = c.isAlphanum := by
  by_cases h : c.isAlpha = true
  · simp [Char.isAlphanum, h]
  · rw [toUpper_of_not_isAlpha h]

theorem trimChars_map_toUpper {cs : List Char} (h : trimChars cs = cs) :
    trimChars (cs.map Char.toUpper) = cs.map Char.toUpper := by
  refine trimChars_of_ends ?_ ?_
  · intro c hc
    rw [List.head?_map, Option.map_eq_some_iff] at hc
    obtain ⟨d, hd, rfl⟩ := hc
    rw [isBlank_toUpper]
    rw [← h] at hd
    exact isBlank_of_head?_trimChars hd
  · intro c hc
    rw [List.getLast?_map, Option.map_eq_some_iff] at hc
    obtain ⟨d, hd, rfl⟩ := hc
    rw [isBlank_toUpper]
    rw [← h] at hd
    exact isBlank_of_getLast?_trimChars hd

/-- A name that was trimmed and put in upper case is as it should be. -/
theorem upperAscii_trim_upperAscii_trim (s : String) :
    upperAscii (trim (upperAscii (trim s))) = upperAscii (trim s) := by
  rw [← String.toList_inj]
  simp only [toList_upperAscii, toList_trim]
  rw [trimChars_map_toUpper (trimChars_trimChars _), List.map_map]
  exact List.map_congr_left fun c _ => Char.toUpper_toUpper_eq_toUpper c

end Text

namespace Kind

/-- A kind is found under its own name. -/
def IsNamed (k : Kind) : Prop :=
  ofName k.name = k

instance (k : Kind) : Decidable k.IsNamed :=
  inferInstanceAs (Decidable (ofName k.name = k))

/-- Every verb is found under its name. -/
theorem isNamed_verb (v : Verb) : (verb v).IsNamed := by
  cases v <;> decide

theorem isNamed_failed : failed.IsNamed := by
  decide

/-- A kind has the name it was found under, in upper case and without blanks around it. -/
theorem name_ofName (s : String) : (ofName s).name = Text.upperAscii (Text.trim s) := by
  rw [ofName]
  generalize Text.upperAscii (Text.trim s) = upper
  cases hverb : Verb.ofName? upper with
  | some v =>
    have hname := List.find?_some hverb
    exact beq_iff_eq.mp hname
  | none =>
    by_cases hfailed : upper = failedName
    · simp only [if_pos hfailed]
      exact hfailed.symm
    · simp only [if_neg hfailed]
      rfl

/-- A kind that has been found under some name is found under its own. -/
theorem isNamed_ofName (s : String) : (ofName s).IsNamed := by
  rw [IsNamed, name_ofName]
  -- the kind depends on the trimmed name in upper case only
  unfold ofName
  rw [Text.upperAscii_trim_upperAscii_trim]

end Kind

end SheetScript
