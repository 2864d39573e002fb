import Mathlib.Data.List.Basic
import Mathlib.Data.List.TakeWhile
import SheetScript.Text.Blank

/-!
# Trimming

What trimming keeps and what it takes away. A trimmed text has no blanks at its ends, and a text is its
trimmed form with blanks around it.

- `isBlank_of_visible`, `isBlank_of_isAlphanum`: characters that are no blanks.
- `trimChars_append_of_blank`, `trimChars_append_blank`: blanks added at either end are taken away.
- `exists_blanks_trimChars`: what trimming takes away is blank.
- `trimStart_append`, `trimEnd_append`: only the outer parts of a text are trimmed.
-/

namespace SheetScript

namespace Text

/-! ## Characters -/

/-- Letters, digits and the other visible ASCII characters are no blanks. -/
theorem isBlank_of_visible {c : Char} (h : 0x21 ≤ c.toNat ∧ c.toNat ≤ 0x7E) :
    isBlank c = false := by
  unfold isBlank
  simp only [Bool.or_eq_false_iff, Bool.and_eq_false_iff, decide_eq_false_iff_not, beq_eq_false_iff_ne]
  omega

/-- Letters are told by their code points. -/
theorem isAlpha_iff {c : Char} : c.isAlpha = true ↔
    (65 ≤ c.toNat ∧ c.toNat ≤ 90) ∨ 97 ≤ c.toNat ∧ c.toNat ≤ 122 := by
  have hcodes : c.isAlpha = (decide (65 ≤ c.toNat ∧ c.toNat ≤ 90) ||
      (decide (97 ≤ c.toNat) && decide (c.toNat ≤ 122))) := rfl
  simp [hcodes]

theorem isDigit_iff {c : Char} : c.isDigit = true ↔ 48 ≤ c.toNat ∧ c.toNat ≤ 57 := by
  have hcodes : c.isDigit = (decide (48 ≤ c.toNat) && decide (c.toNat ≤ 57)) := rfl
  simp [hcodes]

theorem isAlpha_of_isDigit {c : Char} (h : c.isDigit = true) : c.isAlpha = false := by
  by_contra halpha
  rw [Bool.not_eq_false, isAlpha_iff] at halpha
  rw [isDigit_iff] at h
  omega

/-- Letters and digits are no blanks. -/
theorem isBlank_of_isAlphanum {c : Char} (h : c.isAlphanum = true) : isBlank c = false := by
  refine isBlank_of_visible ?_
  rcases Bool.or_eq_true_iff.mp h with halpha | hdigit
  · rw [isAlpha_iff] at halpha
    omega
  · rw [isDigit_iff] at hdigit
    omega

/-- Without blanks there is nothing to trim. -/
theorem trimChars_of_forall {cs : List Char} (h : ∀ c ∈ cs, isBlank c = false) :
    trimChars cs = cs :=
  trimChars_of_ends (fun c hc => h c (List.mem_of_mem_head? hc))
    (fun c hc => h c (List.mem_of_mem_getLast? hc))

/-- Trimming the end leaves what comes before it. -/
theorem trimEnd_prefix_self (cs : List Char) : trimEnd cs <+: cs := by
  have h := (List.dropWhile_suffix isBlank (l := cs.reverse)).reverse
  rwa [List.reverse_reverse] at h

theorem mem_of_mem_trimChars {cs : List Char} {c : Char} (h : c ∈ trimChars cs) : c ∈ cs :=
  List.dropWhile_subset _ ((trimEnd_prefix_self _).subset h)

/-- A trimmed text does not start with a blank. -/
theorem isBlank_of_head?_trimChars {cs : List Char} {c : Char}
    (h : (trimChars cs).head? = some c) : isBlank c = false := by
  obtain ⟨rest, hrest⟩ := trimEnd_prefix_self (trimStart cs)
  have hhead : (trimStart cs).head? = some c := by
    rw [← hrest, List.head?_append]
    show (trimChars cs).head?.or _ = some c
    rw [h]
    rfl
  have := List.head?_dropWhile_not isBlank cs
  rw [show cs.dropWhile isBlank = trimStart cs from rfl, hhead] at this
  simpa using this

/-- A trimmed text does not end with a blank. -/
theorem isBlank_of_getLast?_trimChars {cs : List Char} {c : Char}
    (h : (trimChars cs).getLast? = some c) : isBlank c = false := by
  rw [trimChars, trimEnd, List.getLast?_reverse] at h
  have := List.head?_dropWhile_not isBlank (trimStart cs).reverse
  rw [h] at this
  simpa using this

/-- Trimming twice is trimming once. -/
@[simp] theorem trimChars_trimChars (cs : List Char) : trimChars (trimChars cs) = trimChars cs :=
  trimChars_of_ends (fun _ => isBlank_of_head?_trimChars) (fun _ => isBlank_of_getLast?_trimChars)

theorem trimStart_of_trimChars {cs : List Char} (h : trimChars cs = cs) : trimStart cs = cs := by
  have hlength := (trimEnd_prefix_self (trimStart cs)).length_le
  rw [show trimEnd (trimStart cs) = cs from h] at hlength
  exact (List.dropWhile_suffix isBlank).eq_of_length_le hlength

theorem trimEnd_of_trimChars {cs : List Char} (h : trimChars cs = cs) : trimEnd cs = cs := by
  rwa [trimChars, trimStart_of_trimChars h] at h

/-! ## Blanks at the ends -/

section

variable {p q cs : List Char}

/-- Blanks in front are trimmed, however many there are. -/
theorem trimStart_append_of_blank (hp : ∀ c ∈ p, isBlank c = true) :
    trimStart (p ++ cs) = trimStart cs :=
  List.dropWhile_append_of_pos hp

/-- So are blanks at the end. -/
theorem trimEnd_append_blank (hq : ∀ c ∈ q, isBlank c = true) :
    trimEnd (cs ++ q) = trimEnd cs := by
  have hrev : ∀ c ∈ q.reverse, isBlank c = true := fun c hc => hq c (List.mem_reverse.mp hc)
  rw [trimEnd, List.reverse_append, List.dropWhile_append_of_pos hrev, trimEnd]

/-- Trimming leaves nothing of blanks, and of nothing else. -/
theorem trimStart_eq_nil_iff : trimStart cs = [] ↔ ∀ c ∈ cs, isBlank c = true :=
  List.dropWhile_eq_nil_iff

theorem mem_of_trimStart_eq_cons {c : Char} (h : trimStart cs = c :: q) : c ∈ cs := by
  have hmem : c ∈ trimStart cs := by simp [h]
  exact List.dropWhile_subset _ hmem

/-- A text that is not blank is trimmed at its start as if nothing followed. -/
theorem trimStart_append (hp : ∃ c ∈ p, isBlank c = false) :
    trimStart (p ++ cs) = trimStart p ++ cs := by
  have hne : trimStart p ≠ [] := by
    rw [Ne, trimStart_eq_nil_iff]
    obtain ⟨c, hc, hblank⟩ := hp
    intro hall
    rw [hall c hc] at hblank
    cases hblank
  rw [trimStart, List.dropWhile_append, if_neg (by simpa [trimStart] using hne)]
  rfl

/-- A text that is not blank is trimmed at its end as if nothing stood before it. -/
theorem trimEnd_append (hq : ∃ c ∈ q, isBlank c = false) : trimEnd (cs ++ q) = cs ++ trimEnd q := by
  have hrev : ∃ c ∈ q.reverse, isBlank c = false := by simpa using hq
  have h : trimStart (q.reverse ++ cs.reverse) = trimStart q.reverse ++ cs.reverse :=
    trimStart_append hrev
  rw [trimStart, trimStart] at h
  rw [trimEnd, List.reverse_append, h, List.reverse_append, List.reverse_reverse, trimEnd]

theorem trimEnd_eq_nil_iff : trimEnd cs = [] ↔ ∀ c ∈ cs, isBlank c = true := by
  rw [trimEnd, List.reverse_eq_nil_iff, List.dropWhile_eq_nil_iff]
  exact forall_congr' fun c => by rw [List.mem_reverse]

/-- A character stays in front if something to see follows or it can be seen itself. -/
theorem trimEnd_cons {c : Char} (h : ∃ d ∈ c :: cs, isBlank d = false) :
    trimEnd (c :: cs) = c :: trimEnd cs := by
  by_cases hcs : ∀ d ∈ cs, isBlank d = true
  · have hc : isBlank c = false := by
      obtain ⟨d, hd, hblank⟩ := h
      rcases List.mem_cons.mp hd with rfl | hd
      · exact hblank
      · rw [hcs d hd] at hblank
        cases hblank
    have hlast : trimEnd ([] ++ [c]) = [] ++ [c] := trimEnd_of_last hc
    rw [← List.singleton_append, trimEnd_append_blank hcs, trimEnd_eq_nil_iff.mpr hcs]
    exact hlast
  · have hcs : ∃ d ∈ cs, isBlank d = false := by simpa using hcs
    have happend : trimEnd ([c] ++ cs) = [c] ++ trimEnd cs := trimEnd_append hcs
    exact happend

theorem trimChars_append_of_blank (hp : ∀ c ∈ p, isBlank c = true) :
    trimChars (p ++ cs) = trimChars cs := by
  rw [trimChars, trimStart_append_of_blank hp, trimChars]

theorem trimChars_append_blank (hq : ∀ c ∈ q, isBlank c = true) :
    trimChars (cs ++ q) = trimChars cs := by
  by_cases hcs : ∀ c ∈ cs, isBlank c = true
  · rw [trimChars_append_of_blank hcs, trimChars, trimChars, trimStart_eq_nil_iff.mpr hq,
      trimStart_eq_nil_iff.mpr hcs]
  · have hcs : ∃ c ∈ cs, isBlank c = false := by simpa using hcs
    rw [trimChars, trimStart_append hcs, trimEnd_append_blank hq, trimChars]

/-- What is trimmed in front is blank. -/
theorem exists_append_trimStart (cs : List Char) :
    ∃ p, (∀ c ∈ p, isBlank c = true) ∧ cs = p ++ trimStart cs :=
  ⟨cs.takeWhile isBlank, fun _ => List.mem_takeWhile_imp, List.takeWhile_append_dropWhile.symm⟩

/-- What is trimmed at the end is blank. -/
theorem exists_trimEnd_append (cs : List Char) :
    ∃ q, (∀ c ∈ q, isBlank c = true) ∧ cs = trimEnd cs ++ q := by
  obtain ⟨p, hp, hcs⟩ := exists_append_trimStart cs.reverse
  refine ⟨p.reverse, fun c hc => hp c (List.mem_reverse.mp hc), ?_⟩
  have h := congrArg List.reverse hcs
  rwa [List.reverse_reverse, List.reverse_append] at h

/-- A text is its trimmed form with blanks around it. -/
theorem exists_blanks_trimChars (cs : List Char) :
    ∃ p q, (∀ c ∈ p, isBlank c = true) ∧ (∀ c ∈ q, isBlank c = true) ∧
      cs = p ++ (trimChars cs ++ q) := by
  obtain ⟨p, hp, hstart⟩ := exists_append_trimStart cs
  obtain ⟨q, hq, hend⟩ := exists_trimEnd_append (trimStart cs)
  exact ⟨p, q, hp, hq, hstart.trans (congrArg (p ++ ·) hend)⟩

@[simp] theorem trimChars_trimStart (cs : List Char) : trimChars (trimStart cs) = trimChars cs := by
  obtain ⟨p, hp, hcs⟩ := exists_append_trimStart cs
  conv_rhs => rw [hcs]
  exact (trimChars_append_of_blank hp).symm

@[simp] theorem trimChars_trimEnd (cs : List Char) : trimChars (trimEnd cs) = trimChars cs := by
  obtain ⟨q, hq, hcs⟩ := exists_trimEnd_append cs
  conv_rhs => rw [hcs]
  exact (trimChars_append_blank hq).symm

theorem trimChars_eq_nil_iff : trimChars cs = [] ↔ ∀ c ∈ cs, isBlank c = true := by
  constructor
  · intro h
    obtain ⟨p, q, hp, hq, hcs⟩ := exists_blanks_trimChars cs
    rw [h] at hcs
    rw [hcs, List.nil_append]
    exact fun c hc => (List.mem_append.mp hc).elim (hp c) (hq c)
  · intro h
    rw [trimChars, trimStart_eq_nil_iff.mpr h]
    rfl

end

end Text

end SheetScript
