import Mathlib.Data.List.Basic
import SheetScript.Proofs.Blanks
import SheetScript.Reply.Basic

/-!
# The grammar of command lines

A command line is a bare verb, or it has bars in it. Cut at its bars and with its pieces trimmed, it is
a name and arguments. The blanks around the bars are taken out before a line is cut; cutting first and
trimming then comes to the same.

- `cut_induction`: a text is one piece, or a piece and a text behind the first cut.
- `notMem_of_mem_splitOn`, `subset_of_mem_splitOn`: what the pieces of a text are made of.
- `tightenBars_append_bar`: the blanks around the first bar are taken out.
- `map_trimChars_splitOn_tightenBars`: the trimmed pieces of a text are those without the blanks.
- `parseTrimmed?_of_notMem`, `parseTrimmed?_append_bar`: lines without and with bars.
-/

namespace SheetScript

/-! ## Pieces -/

section

variable {c : Char} {cs piece : List Char}

/-- A text is one piece, or it is a piece and a text behind the first cut. -/
theorem cut_induction {motive : List Char → Prop} (whole : ∀ l, c ∉ l → motive l)
    (cut : ∀ l m, c ∉ l → motive m → motive (l ++ c :: m)) (cs : List Char) : motive cs := by
  induction hn : cs.length using Nat.strong_induction_on generalizing cs with
  | _ n ih =>
    by_cases hc : c ∈ cs
    · obtain ⟨l, m, rfl, hl⟩ := List.eq_append_cons_of_mem hc
      rw [List.length_append, List.length_cons] at hn
      exact cut l m hl (ih m.length (by omega) m rfl)
    · exact whole cs hc

/-- No piece of a text has the character in it that the text is cut at. -/
theorem notMem_of_mem_splitOn (h : piece ∈ cs.splitOn c) : c ∉ piece := by
  induction cs using cut_induction (c := c) with
  | whole l hl =>
    rw [List.splitOn_eq_singleton hl, List.mem_singleton] at h
    exact h ▸ hl
  | cut l m hl ih =>
    rw [List.splitOn_append_cons_self_of_not_mem hl, List.mem_cons] at h
    rcases h with rfl | h
    · exact hl
    · exact ih h

/-- The pieces of a text are made of its characters. -/
theorem subset_of_mem_splitOn (h : piece ∈ cs.splitOn c) : piece ⊆ cs := by
  induction cs using cut_induction (c := c) with
  | whole l hl =>
    rw [List.splitOn_eq_singleton hl, List.mem_singleton] at h
    exact h ▸ List.Subset.refl l
  | cut l m hl ih =>
    rw [List.splitOn_append_cons_self_of_not_mem hl, List.mem_cons] at h
    rcases h with rfl | h
    · exact List.subset_append_left _ _
    · exact List.Subset.trans (ih h) fun d hd =>
        List.mem_append_right _ (List.mem_cons_of_mem _ hd)

/-- Joined pieces are made of their own characters and of the one between them. -/
theorem mem_of_mem_intercalate {pieces : List (List Char)} {d : Char}
    (h : d ∈ [c].intercalate pieces) : d = c ∨ ∃ piece ∈ pieces, d ∈ piece := by
  induction pieces with
  | nil => cases h
  | cons piece pieces ih =>
    cases pieces with
    | nil =>
      rw [List.intercalate_singleton] at h
      exact Or.inr ⟨piece, List.mem_cons_self, h⟩
    | cons next pieces =>
      rw [List.intercalate_cons_cons, List.append_assoc, List.mem_append,
        List.singleton_append, List.mem_cons] at h
      rcases h with h | rfl | h
      · exact Or.inr ⟨piece, List.mem_cons_self, h⟩
      · exact Or.inl rfl
      · rcases ih h with rfl | ⟨p, hp, hd⟩
        · exact Or.inl rfl
        · exact Or.inr ⟨p, List.mem_cons_of_mem piece hp, hd⟩

end

namespace Reply

/-! ## Blanks around bars -/

section

variable {l m : List Char}

theorem isBlank_bar : Text.isBlank '|' = false := rfl

/-- A bar is no blank, so trimming in front stops there. -/
theorem trimStart_append_bar (l m : List Char) :
    Text.trimStart (l ++ '|' :: m) = Text.trimStart l ++ '|' :: m := by
  by_cases hl : ∀ c ∈ l, Text.isBlank c = true
  · rw [Text.trimStart_append_of_blank hl, Text.trimStart_of_head isBlank_bar,
      Text.trimStart_eq_nil_iff.mpr hl, List.nil_append]
  · exact Text.trimStart_append (by simpa using hl)

theorem trimEnd_append_bar (l m : List Char) :
    Text.trimEnd (l ++ '|' :: m) = l ++ '|' :: Text.trimEnd m := by
  have hbar : ∃ c ∈ '|' :: m, Text.isBlank c = false := ⟨'|', List.mem_cons_self, isBlank_bar⟩
  rw [Text.trimEnd_append hbar, Text.trimEnd_cons hbar]

/-- Joined pieces without blanks at their ends have none at the end. -/
theorem trimEnd_intercalate {pieces : List (List Char)}
    (h : ∀ piece ∈ pieces, Text.trimEnd piece = piece) :
    Text.trimEnd (['|'].intercalate pieces) = ['|'].intercalate pieces := by
  induction pieces with
  | nil => rfl
  | cons piece pieces ih =>
    rw [List.forall_mem_cons] at h
    cases pieces with
    | nil => rw [List.intercalate_singleton, h.1]
    | cons next pieces =>
      rw [List.intercalate_cons_cons, List.append_assoc, List.singleton_append,
        trimEnd_append_bar, ih h.2]

theorem tightenBars_cons {c : Char} (h : ∀ after, Text.trimStart (c :: l) ≠ '|' :: after) :
    tightenBars (c :: l) = c :: tightenBars l := by
  rw [tightenBars]
  split
  next after hbar => exact absurd hbar (h after)
  next => rfl

/-- Blanks in front of a bar and behind it are taken out. -/
theorem tightenBars_of_trimStart (h : Text.trimStart l = '|' :: m) :
    tightenBars l = '|' :: tightenBars (Text.trimStart m) := by
  rw [tightenBars]
  split
  next after hbar =>
    cases hbar.symm.trans h
    rfl
  next hbar => exact absurd h (hbar m)

@[simp] theorem tightenBars_nil : tightenBars [] = [] := by
  rw [tightenBars]
  rfl

/-- A text without bars stays as it is. -/
theorem tightenBars_of_notMem (h : '|' ∉ l) : tightenBars l = l := by
  induction l with
  | nil => exact tightenBars_nil
  | cons c l ih =>
    have hbar : ∀ after, Text.trimStart (c :: l) ≠ '|' :: after := fun after hafter =>
      h (Text.mem_of_trimStart_eq_cons hafter)
    rw [tightenBars_cons hbar, ih fun hmem => h (List.mem_cons_of_mem c hmem)]

/-- The blanks around the first bar are taken out. -/
theorem tightenBars_append_bar (h : '|' ∉ l) (m : List Char) :
    tightenBars (l ++ '|' :: m) = Text.trimEnd l ++ '|' :: tightenBars (Text.trimStart m) := by
  induction l with
  | nil => exact tightenBars_of_trimStart (Text.trimStart_of_head isBlank_bar)
  | cons c l ih =>
    rw [List.mem_cons, not_or] at h
    have hstart := trimStart_append_bar (c :: l) m
    by_cases hl : ∀ d ∈ c :: l, Text.isBlank d = true
    · rw [Text.trimStart_eq_nil_iff.mpr hl] at hstart
      rw [tightenBars_of_trimStart hstart, Text.trimEnd_eq_nil_iff.mpr hl, List.nil_append]
    · have hl : ∃ d ∈ c :: l, Text.isBlank d = false := by simpa [-List.mem_cons] using hl
      -- a bar behind something visible does not come first
      have hbar : ∀ after, Text.trimStart (c :: (l ++ '|' :: m)) ≠ '|' :: after := by
        intro after hafter
        obtain ⟨d, rest, hd⟩ : ∃ d rest, Text.trimStart (c :: l) = d :: rest :=
          List.exists_cons_of_ne_nil fun hnil => by
            obtain ⟨e, he, hvisible⟩ := hl
            rw [Text.trimStart_eq_nil_iff.mp hnil e he] at hvisible
            cases hvisible
        rw [← List.cons_append, hstart, hd] at hafter
        cases hafter
        exact List.mem_cons.mp (Text.mem_of_trimStart_eq_cons hd) |>.elim h.1 h.2
      rw [List.cons_append, tightenBars_cons hbar, ih h.2, Text.trimEnd_cons hl, List.cons_append]

/-- The trimmed pieces of a text are the same when the blanks around its bars are gone. -/
theorem map_trimChars_splitOn_tightenBars (cs : List Char) :
    ((tightenBars (Text.trimStart cs)).splitOn '|').map Text.trimChars =
      (cs.splitOn '|').map Text.trimChars := by
  have hstart : ∀ {l : List Char}, '|' ∉ l → '|' ∉ Text.trimStart l := fun hl hmem =>
    hl (List.dropWhile_subset _ hmem)
  -- what stands behind a bar loses its first blanks, as the text did that the induction is about
  induction cs using cut_induction (c := '|') with
  | whole l hl =>
    rw [tightenBars_of_notMem (hstart hl), List.splitOn_eq_singleton (hstart hl),
      List.splitOn_eq_singleton hl, List.map_singleton, List.map_singleton, Text.trimChars_trimStart]
  | cut l m hl ih =>
    have hend : '|' ∉ Text.trimEnd (Text.trimStart l) := fun hmem =>
      hstart hl ((Text.trimEnd_prefix_self _).subset hmem)
    rw [trimStart_append_bar, tightenBars_append_bar (hstart hl),
      List.splitOn_append_cons_self_of_not_mem hend, List.splitOn_append_cons_self_of_not_mem hl,
      List.map_cons, List.map_cons, ih, Text.trimChars_trimEnd, Text.trimChars_trimStart]

/-! ## Lines with and without bars -/

/-- Without a bar there are no fields. -/
theorem fields?_of_notMem (h : '|' ∉ l) : fields? l = none := by
  have hdrop : l.dropWhile (· != '|') = [] := by
    rw [List.dropWhile_eq_nil_iff]
    exact fun c hc => bne_iff_ne.mpr fun heq => h (heq ▸ hc)
  rw [fields?, hdrop]

/-- The first bar ends the label, and the others part the arguments. -/
theorem fields?_append_bar (h : '|' ∉ l) (m : List Char) :
    fields? (l ++ '|' :: m) = some (l, m.splitOn '|') := by
  have hpos : ∀ c ∈ l, (c != '|') = true := fun c hc => bne_iff_ne.mpr fun heq => h (heq ▸ hc)
  rw [fields?, List.dropWhile_append_of_pos hpos, List.takeWhile_append_of_pos hpos]
  simp

/-- A line with a bar in it is no bare verb. -/
theorem ofBareLine?_of_bar (h : '|' ∈ l) : Verb.ofBareLine? (String.ofList l) = none := by
  have hname : ∀ v : Verb, '|' ∉ v.name.toList := by
    intro v
    cases v <;> decide
  rw [Verb.ofBareLine?, List.find?_eq_none]
  intro v _ hv
  obtain ⟨-, hv⟩ := Bool.and_eq_true_iff.mp hv
  -- the name would be the line in upper case, and with it have the bar
  refine hname v ?_
  rw [beq_iff_eq.mp hv, Text.toList_upperAscii, String.toList_ofList]
  exact List.mem_map.mpr ⟨'|', h, by decide⟩

/-- A line without bars is a command line if it is a bare verb. -/
theorem parseTrimmed?_of_notMem (h : '|' ∉ l) :
    parseTrimmed? l =
      (Verb.ofBareLine? (String.ofList l)).map fun v => [⟨.verb v, [], String.ofList l⟩] := by
  rw [parseTrimmed?, tightenBars_of_notMem h, fields?_of_notMem h]
  cases Verb.ofBareLine? (String.ofList l) <;> rfl

/-- A line with bars is a command line if there is a name before the first bar. Its arguments are the
trimmed pieces behind it. -/
theorem parseTrimmed?_append_bar (h : '|' ∉ l) (m : List Char) :
    parseTrimmed? (l ++ '|' :: m) =
      if isName (Text.trimEnd l) then
        some (expand (.ofName (String.ofList (Text.trimEnd l)))
          ((m.splitOn '|').map fun arg => String.ofList (Text.trimChars arg))
          (String.ofList (l ++ '|' :: m)))
      else none := by
  have hend : '|' ∉ Text.trimEnd l := fun hmem => h ((Text.trimEnd_prefix_self l).subset hmem)
  have hargs : (((tightenBars (Text.trimStart m)).splitOn '|').map fun arg =>
      String.ofList (Text.trimChars arg)) =
        (m.splitOn '|').map fun arg => String.ofList (Text.trimChars arg) := by
    have hpieces := congrArg (List.map String.ofList) (map_trimChars_splitOn_tightenBars m)
    rwa [List.map_map, List.map_map] at hpieces
  have hbare : Verb.ofBareLine? (String.ofList (l ++ '|' :: m)) = none :=
    ofBareLine?_of_bar (List.mem_append_right _ List.mem_cons_self)
  rw [parseTrimmed?, hbare, tightenBars_append_bar h, fields?_append_bar hend]
  simp only [hargs]

end

end Reply

end SheetScript
