import Mathlib.Algebra.Order.BigOperators.Group.List
import Mathlib.Algebra.Order.Ring.Nat
import Mathlib.Data.List.ModifyLast
import SheetScript.Proofs.Fences
import SheetScript.Proofs.LineGrammar

/-!
# The prose of a reply

Every line of a reply goes to exactly one side: it is a command line, it is blank, or it is shown. The
prose is joined, squeezed and trimmed as one text, but what comes out is made of the lines that are
shown and of nothing else.

- `dropBlankLines_joinLines`: squeezing joined lines drops the blank ones behind the first, and keeps
  the last.
- `trimChars_joinLines`: trimming joined lines trims the first and the last.
- `Sides`: where each line of a text goes.
- `parse_sides`: the two sides of a reply.
- `parse_prose`: the prose of a reply is read as prose, and nothing in it is a command.
-/

namespace SheetScript.Reply

/-! ## Joined lines -/

/-- Some lines as one text. -/
def joinLines (ls : List (List Char)) : List Char :=
  ['\n'].intercalate ls

section

variable {l : List Char} {ls : List (List Char)}

@[simp] theorem joinLines_nil : joinLines [] = [] := rfl

@[simp] theorem joinLines_singleton (l : List Char) : joinLines [l] = l :=
  List.intercalate_singleton

theorem joinLines_cons (l : List Char) (hls : ls ≠ []) :
    joinLines (l :: ls) = l ++ '\n' :: joinLines ls := by
  rw [joinLines, List.intercalate_cons_of_ne_nil hls, List.append_assoc]
  rfl

/-- A last line is put behind the others, with a line break in between. -/
theorem joinLines_concat (l : List Char) (hls : ls ≠ []) :
    joinLines (ls ++ [l]) = joinLines ls ++ '\n' :: l := by
  induction ls with
  | nil => exact absurd rfl hls
  | cons k ls ih =>
    cases ls with
    | nil => simp [joinLines_cons k (List.cons_ne_nil l [])]
    | cons k' ls =>
      rw [List.cons_append, joinLines_cons k (by simp), ih (by simp),
        joinLines_cons k (by simp), List.append_assoc]
      rfl

/-- Lines that are joined are cut into the same lines again. -/
theorem splitOn_joinLines (hls : ls ≠ []) (h : ∀ l ∈ ls, '\n' ∉ l) :
    (joinLines ls).splitOn '\n' = ls :=
  List.splitOn_intercalate '\n' h hls

end

/-! ## Squeezing -/

theorem isBlank_newline : Text.isBlank '\n' = true := rfl

section

variable {l m : List Char} {ls : List (List Char)}

/-- Behind a line break, blank lines are skipped before anything is kept. -/
theorem dropBlankLines_newline (m : List Char) :
    dropBlankLines ('\n' :: m) = '\n' :: dropBlankLines (skipBlankLines m) := by
  rw [dropBlankLines, if_pos rfl]

/-- Text without a line break is kept as it is. -/
theorem dropBlankLines_append (h : '\n' ∉ l) (m : List Char) :
    dropBlankLines (l ++ m) = l ++ dropBlankLines m := by
  induction l with
  | nil => rfl
  | cons c l ih =>
    rw [List.mem_cons, not_or] at h
    rw [List.cons_append, dropBlankLines, if_neg (Ne.symm h.1), ih h.2, List.cons_append]

theorem dropBlankLines_eq_self (h : '\n' ∉ l) : dropBlankLines l = l := by
  have := dropBlankLines_append h []
  rwa [List.append_nil, dropBlankLines, List.append_nil] at this

/-- A blank line with another line behind it is skipped. -/
theorem skipBlankLines_append_newline (h : l.all Text.isBlank = true) (m : List Char) :
    skipBlankLines (l ++ '\n' :: m) = skipBlankLines m := by
  have hblank : ∀ c ∈ l, Text.isBlank c = true := by simpa using h
  have htake : (l ++ '\n' :: m).takeWhile Text.isBlank =
      l ++ '\n' :: m.takeWhile Text.isBlank := by
    rw [List.takeWhile_append_of_pos hblank, List.takeWhile_cons_of_pos isBlank_newline]
  have hdrop : (l ++ '\n' :: m).dropWhile Text.isBlank = m.dropWhile Text.isBlank := by
    rw [List.dropWhile_append_of_pos hblank, List.dropWhile_cons_of_pos isBlank_newline]
  -- only what stands behind the last line end counts
  have hlast : ∀ a b : List Char, (a ++ '\n' :: b).takeWhile (· != '\n') =
      a.takeWhile (· != '\n') := by
    intro a b
    rw [List.takeWhile_append]
    split
    next hall =>
      have ha := (List.takeWhile_prefix (l := a) (· != '\n')).eq_of_length hall
      simp [ha]
    next => rfl
  rw [skipBlankLines, htake, hdrop, List.reverse_append, List.reverse_cons, List.append_assoc,
    List.singleton_append, hlast, skipBlankLines]

/-- Nothing is skipped if no blank line comes first. -/
theorem skipBlankLines_eq_self (h : '\n' ∉ m.takeWhile Text.isBlank) : skipBlankLines m = m := by
  have hall : ∀ c ∈ (m.takeWhile Text.isBlank).reverse, (c != '\n') = true := by
    intro c hc
    have hc := List.mem_reverse.mp hc
    simpa using fun heq : c = '\n' => h (heq ▸ hc)
  rw [skipBlankLines, List.takeWhile_eq_self_iff.mpr hall, List.reverse_reverse,
    List.takeWhile_append_dropWhile]

/-- A line that is not blank is not skipped. -/
theorem skipBlankLines_append (hl : '\n' ∉ l) (hblank : l.all Text.isBlank = false)
    (m : List Char) : skipBlankLines (l ++ m) = l ++ m := by
  refine skipBlankLines_eq_self fun hmem => hl ?_
  rw [List.takeWhile_append] at hmem
  split at hmem
  next hall =>
    have hself := (List.takeWhile_prefix (l := l) Text.isBlank).eq_of_length hall
    rw [List.takeWhile_eq_self_iff] at hself
    rw [List.all_eq_true.mpr hself] at hblank
    cases hblank
  next => exact List.takeWhile_subset _ hmem

/-- Some lines without the blank ones, except that the last one stays. -/
def squeezed : List (List Char) → List (List Char)
  | [] => []
  | [l] => [l]
  | l :: l' :: ls =>
    if l.all Text.isBlank then squeezed (l' :: ls) else l :: squeezed (l' :: ls)

theorem squeezed_ne_nil (l : List Char) (ls : List (List Char)) : squeezed (l :: ls) ≠ [] := by
  induction ls generalizing l with
  | nil => simp [squeezed]
  | cons l' ls ih =>
    rw [squeezed]
    split
    · exact ih l'
    · simp

/-- Behind a line end, joined lines are squeezed. -/
theorem dropBlankLines_skipBlankLines (h : ∀ k ∈ l :: ls, '\n' ∉ k) :
    dropBlankLines (skipBlankLines (joinLines (l :: ls))) = joinLines (squeezed (l :: ls)) := by
  -- only blanks with a line end behind them are skipped, so the last line stays even if it is blank
  induction ls generalizing l with
  | nil =>
    have hl : '\n' ∉ l := h l List.mem_cons_self
    rw [joinLines_singleton, squeezed, joinLines_singleton,
      skipBlankLines_eq_self fun hmem => hl (List.takeWhile_subset _ hmem),
      dropBlankLines_eq_self hl]
  | cons l' ls ih =>
    obtain ⟨hl, htail⟩ := List.forall_mem_cons.mp h
    rw [joinLines_cons l (by simp)]
    cases hblank : l.all Text.isBlank with
    | true => rw [skipBlankLines_append_newline hblank, ih htail, squeezed, if_pos hblank]
    | false =>
      rw [skipBlankLines_append hl hblank, dropBlankLines_append hl, dropBlankLines_newline,
        ih htail, squeezed, if_neg (by simp [hblank]), joinLines_cons l (squeezed_ne_nil l' ls)]

/-- Squeezing joined lines drops the blank ones behind the first, and keeps the last. -/
theorem dropBlankLines_joinLines (h : ∀ k ∈ l :: ls, '\n' ∉ k) :
    dropBlankLines (joinLines (l :: ls)) = joinLines (l :: squeezed ls) := by
  obtain ⟨hl, htail⟩ := List.forall_mem_cons.mp h
  cases ls with
  | nil => rw [squeezed, joinLines_singleton, dropBlankLines_eq_self hl]
  | cons l' ls =>
    rw [joinLines_cons l (by simp), dropBlankLines_append hl, dropBlankLines_newline,
      dropBlankLines_skipBlankLines htail, joinLines_cons l (squeezed_ne_nil l' ls)]

/-- The line that squeezing keeps is the last one. -/
theorem squeezed_eq (ls : List (List Char)) :
    squeezed ls = ls.filter (!·.all Text.isBlank) ∨
      ∃ last, last.all Text.isBlank = true ∧
        squeezed ls = ls.filter (!·.all Text.isBlank) ++ [last] := by
  induction ls with
  | nil => exact Or.inl rfl
  | cons l ls ih =>
    cases ls with
    | nil =>
      cases hblank : l.all Text.isBlank with
      | true => exact Or.inr ⟨l, hblank, by simp [squeezed, hblank]⟩
      | false => exact Or.inl (by simp [squeezed, hblank])
    | cons l' ls =>
      rw [squeezed, List.filter_cons]
      cases hblank : l.all Text.isBlank with
      | true => simpa using ih
      | false =>
        rcases ih with ih | ⟨last, hlast, ih⟩
        · exact Or.inl (by simp [ih])
        · exact Or.inr ⟨last, hlast, by simp [ih]⟩

end

/-! ## Trimming -/

section

variable {l : List Char} {ls : List (List Char)}

theorem trimChars_newline (m : List Char) : Text.trimChars ('\n' :: m) = Text.trimChars m :=
  Text.trimChars_append_of_blank (p := ['\n']) (by simp [isBlank_newline])

/-- A blank line at the start of a text is trimmed away. -/
theorem trimChars_joinLines_cons (h : l.all Text.isBlank = true) (ls : List (List Char)) :
    Text.trimChars (joinLines (l :: ls)) = Text.trimChars (joinLines ls) := by
  have hblank : ∀ c ∈ l, Text.isBlank c = true := by simpa using h
  cases ls with
  | nil =>
    rw [joinLines_singleton, ← List.append_nil l, Text.trimChars_append_of_blank hblank,
      joinLines_nil]
  | cons k ls =>
    rw [joinLines_cons l (by simp), Text.trimChars_append_of_blank hblank, trimChars_newline]

/-- A blank line at the end of a text is trimmed away. -/
theorem trimChars_joinLines_concat (h : l.all Text.isBlank = true) (ls : List (List Char)) :
    Text.trimChars (joinLines (ls ++ [l])) = Text.trimChars (joinLines ls) := by
  have hblank : ∀ c ∈ '\n' :: l, Text.isBlank c = true := by simpa [isBlank_newline] using h
  cases ls with
  | nil => exact trimChars_joinLines_cons h []
  | cons k ls => rw [joinLines_concat l (by simp), Text.trimChars_append_blank hblank]

/-- Squeezing and trimming joined lines leaves those that are not blank. -/
theorem trimChars_dropBlankLines (h : ∀ k ∈ ls, '\n' ∉ k) :
    Text.trimChars (dropBlankLines (joinLines ls)) =
      Text.trimChars (joinLines (ls.filter (!·.all Text.isBlank))) := by
  cases ls with
  | nil => simp [dropBlankLines]
  | cons l ls =>
    -- the blank line that squeezing may keep is the last one, and trimming takes it
    have hsqueezed : ∀ first : List (List Char),
        Text.trimChars (joinLines (first ++ squeezed ls)) =
          Text.trimChars (joinLines (first ++ ls.filter (!·.all Text.isBlank))) := by
      intro first
      rcases squeezed_eq ls with hls | ⟨last, hlast, hls⟩
      · rw [hls]
      · rw [hls, ← List.append_assoc, trimChars_joinLines_concat hlast]
    rw [dropBlankLines_joinLines h, List.filter_cons]
    cases hblank : l.all Text.isBlank with
    | true => simpa [trimChars_joinLines_cons hblank] using hsqueezed []
    | false => simpa using hsqueezed [l]

/-- Some lines with the first one trimmed at its start and the last one at its end. -/
def trimEnds (ls : List (List Char)) : List (List Char) :=
  (ls.modifyHead Text.trimStart).modifyLast Text.trimEnd

theorem exists_visible (h : l.all Text.isBlank = false) : ∃ c ∈ l, Text.isBlank c = false := by
  simpa using h

/-- A line is as blank as its trimmed form. -/
theorem all_isBlank_eq (l : List Char) : l.all Text.isBlank = decide (Text.trimChars l = []) := by
  rw [Bool.eq_iff_iff, List.all_eq_true, decide_eq_true_iff, Text.trimChars_eq_nil_iff]

/-- The first line with something to see is where trimming stops. -/
theorem trimStart_joinLines (h : l.all Text.isBlank = false) (ls : List (List Char)) :
    Text.trimStart (joinLines (l :: ls)) = joinLines (Text.trimStart l :: ls) := by
  cases ls with
  | nil => rw [joinLines_singleton, joinLines_singleton]
  | cons k ls =>
    have hne := List.cons_ne_nil k ls
    rw [joinLines_cons l hne, Text.trimStart_append (exists_visible h), joinLines_cons _ hne]

/-- So is the last one, from the other side. -/
theorem trimEnd_joinLines (h : l.all Text.isBlank = false) (ls : List (List Char)) :
    Text.trimEnd (joinLines (ls ++ [l])) = joinLines (ls ++ [Text.trimEnd l]) := by
  cases ls with
  | nil => rw [List.nil_append, joinLines_singleton, List.nil_append, joinLines_singleton]
  | cons k ls =>
    have hne := List.cons_ne_nil k ls
    have hsplit : ∀ x, joinLines (k :: ls) ++ '\n' :: x = (joinLines (k :: ls) ++ ['\n']) ++ x :=
      fun x => List.append_cons _ _ x
    rw [joinLines_concat l hne, joinLines_concat _ hne, hsplit l,
      hsplit (Text.trimEnd l), Text.trimEnd_append (exists_visible h)]

/-- Trimming joined lines trims the first and the last. -/
theorem trimChars_joinLines (h : ∀ l ∈ ls, l.all Text.isBlank = false) :
    Text.trimChars (joinLines ls) = joinLines (trimEnds ls) := by
  cases ls with
  | nil => rfl
  | cons l ls =>
    obtain ⟨hl, htail⟩ := List.forall_mem_cons.mp h
    have hstart : (Text.trimStart l).all Text.isBlank = false := by
      rw [all_isBlank_eq, Text.trimChars_trimStart, ← all_isBlank_eq, hl]
    rw [Text.trimChars, trimStart_joinLines hl, trimEnds, List.modifyHead_cons]
    have hall : ∀ k ∈ Text.trimStart l :: ls, k.all Text.isBlank = false :=
      List.forall_mem_cons.mpr ⟨hstart, htail⟩
    rcases List.eq_nil_or_concat' (Text.trimStart l :: ls) with hnil | ⟨init, last, hsplit⟩
    · cases hnil
    · rw [hsplit] at hall ⊢
      rw [trimEnd_joinLines (hall last (by simp)), List.modifyLast_concat]

/-- Trimming the ends takes nothing but outer blanks from a line. -/
theorem exists_of_mem_trimEnds (h : l ∈ trimEnds ls) :
    ∃ k ∈ ls, Text.trimChars l = Text.trimChars k ∧ l ⊆ k := by
  have hstart : ∀ k ∈ ls.modifyHead Text.trimStart,
      ∃ j ∈ ls, Text.trimChars k = Text.trimChars j ∧ k ⊆ j := by
    cases ls with
    | nil => simp
    | cons j ls =>
      rw [List.modifyHead_cons, List.forall_mem_cons]
      exact ⟨⟨j, List.mem_cons_self, Text.trimChars_trimStart j, List.dropWhile_subset _⟩,
        fun k hk => ⟨k, List.mem_cons_of_mem j hk, rfl, List.Subset.refl k⟩⟩
  rw [trimEnds] at h
  rcases List.eq_nil_or_concat' (ls.modifyHead Text.trimStart) with hnil | ⟨init, last, hsplit⟩
  · rw [hnil] at h
    cases h
  · rw [hsplit] at h hstart
    rw [List.modifyLast_concat, List.mem_append, List.mem_singleton] at h
    rcases h with h | rfl
    · exact hstart l (List.mem_append_left _ h)
    · -- the last line may be the first one too, and then it was trimmed before
      obtain ⟨j, hj, htrim, hsubset⟩ := hstart last (by simp)
      exact ⟨j, hj, (Text.trimChars_trimEnd last).trans htrim,
        List.Subset.trans (Text.trimEnd_prefix_self last).subset hsubset⟩

theorem trimEnds_ne_nil (h : ls ≠ []) : trimEnds ls ≠ [] := by
  obtain ⟨l, ls, rfl⟩ := List.exists_cons_of_ne_nil h
  rw [trimEnds, List.modifyHead_cons]
  rcases List.eq_nil_or_concat' (Text.trimStart l :: ls) with hnil | ⟨init, last, hsplit⟩
  · cases hnil
  · simp [hsplit, List.modifyLast_concat]

end

/-! ## Sorted lines -/

/-- Whether a line is shown to the user: it is no command line and not blank. -/
def isShown (line : List Char) : Bool :=
  !line.all Text.isBlank && (parseLine? line).isNone

/-- Where the lines of a text go. Each one is a command line with its commands, or blank, or shown, and
nothing else comes of it. -/
inductive Sides : List (List Char) → List (List Command) → List (List Char) → Prop
  | nil : Sides [] [] []
  | command {line : List Char} {cs : List Command} {ls shown : List (List Char)}
      {commands : List (List Command)} (read : parseLine? line = some cs)
      (rest : Sides ls commands shown) : Sides (line :: ls) (cs :: commands) shown
  | blank {line : List Char} {ls shown : List (List Char)} {commands : List (List Command)}
      (unread : parseLine? line = none) (blank : line.all Text.isBlank = true)
      (rest : Sides ls commands shown) : Sides (line :: ls) commands shown
  | prose {line : List Char} {ls shown : List (List Char)} {commands : List (List Command)}
      (unread : parseLine? line = none) (visible : line.all Text.isBlank = false)
      (rest : Sides ls commands shown) : Sides (line :: ls) commands (line :: shown)

/-- All lines are sorted, whatever they are. -/
theorem sides_filter (ls : List (List Char)) :
    Sides ls (ls.filterMap parseLine?) (ls.filter isShown) := by
  induction ls with
  | nil => exact .nil
  | cons line ls ih =>
    cases hread : parseLine? line with
    | some cs =>
      rw [List.filterMap_cons_some hread, List.filter_cons_of_neg (by simp [isShown, hread])]
      exact .command hread ih
    | none =>
      rw [List.filterMap_cons_none hread]
      cases hblank : line.all Text.isBlank with
      | true =>
        rw [List.filter_cons_of_neg (by simp [isShown, hblank])]
        exact .blank hread hblank ih
      | false =>
        rw [List.filter_cons_of_pos (by simp [isShown, hread, hblank])]
        exact .prose hread hblank ih

/-- Lines are taken for commands or shown, each by itself. -/
theorem sortLines_eq (ls : List (List Char)) :
    sortLines ls =
      ((ls.filterMap parseLine?).flatten, ls.filter fun line => (parseLine? line).isNone) := by
  induction ls with
  | nil => rfl
  | cons line ls ih =>
    rw [sortLines, ih]
    cases hread : parseLine? line <;> simp [hread]

/-! ## The two sides of a reply -/

/-- The lines of a reply that are shown to the user. -/
def shown (text : String) : List (List Char) :=
  (lines text).filter isShown

variable {text : String}

/-- The commands of a reply are those of its lines, in their order. -/
theorem commands_parse (text : String) :
    (parse text).commands = ((lines text).filterMap parseLine?).flatten := by
  rw [parse, sortLines_eq]

theorem newline_notMem_of_mem_lines {line : List Char} (h : line ∈ lines text) : '\n' ∉ line :=
  notMem_of_mem_splitOn h

/-- No line that is shown is all blank. -/
theorem all_isBlank_of_mem_shown {line : List Char} (h : line ∈ shown text) :
    line.all Text.isBlank = false := by
  have hshown := (List.mem_filter.mp h).2
  rw [isShown, Bool.and_eq_true, Bool.not_eq_true'] at hshown
  exact hshown.1

/-- The prose of a reply is made of the lines that are shown. -/
theorem toList_prose (text : String) :
    (parse text).prose.toList = Text.trimChars (joinLines (shown text)) := by
  have hunread : ∀ line ∈ (lines text).filter fun line => (parseLine? line).isNone, '\n' ∉ line :=
    fun line hline => newline_notMem_of_mem_lines (List.mem_of_mem_filter hline)
  rw [parse, sortLines_eq]
  show (String.ofList (Text.trimChars (dropBlankLines (joinLines _)))).toList = _
  rw [String.toList_ofList, trimChars_dropBlankLines hunread, List.filter_filter]
  rfl

/-- The prose has the lines that are shown, with the blanks at its ends off. -/
theorem splitOn_prose (h : shown text ≠ []) :
    (parse text).prose.toList.splitOn '\n' = trimEnds (shown text) := by
  rw [toList_prose, trimChars_joinLines fun _ => all_isBlank_of_mem_shown]
  refine splitOn_joinLines (trimEnds_ne_nil h) fun l hl hnewline => ?_
  obtain ⟨k, hk, -, hsubset⟩ := exists_of_mem_trimEnds hl
  exact newline_notMem_of_mem_lines (List.mem_of_mem_filter hk) (hsubset hnewline)

theorem prose_of_shown_eq_nil (h : shown text = []) : (parse text).prose = "" := by
  rw [← String.toList_inj, toList_prose, h]
  rfl

/-- Every line of a reply goes to exactly one side. The commands are those of the command lines, one
after the other, and the lines of the prose are the shown ones with the blanks at both ends of the
prose trimmed away. -/
theorem parse_sides (text : String) :
    Sides (lines text) ((lines text).filterMap parseLine?) (shown text) ∧
      (parse text).commands = ((lines text).filterMap parseLine?).flatten ∧
      (shown text = [] → (parse text).prose = "") ∧
      (shown text ≠ [] → (parse text).prose.toList.splitOn '\n' = trimEnds (shown text)) :=
  ⟨sides_filter (lines text), commands_parse text, prose_of_shown_eq_nil, splitOn_prose⟩

example : (parse " Done:\n\nUNDO\n \t\n  next? ").prose = "Done:\n  next?" := by decide +kernel

/-! ## Reading the prose -/

/-- At most one fence is left in the lines of a reply. -/
theorem sum_fenceCount_lines_le (text : String) : ((lines text).map fenceCount).sum ≤ 1 := by
  rw [lines, sum_fenceCount_splitOn (by decide)]
  exact fenceCount_stripFences _

/-- At most one fence is left in the prose. -/
theorem fenceCount_prose (text : String) : fenceCount (parse text).prose.toList ≤ 1 := by
  calc fenceCount (parse text).prose.toList
      = ((shown text).map fenceCount).sum := by
        rw [toList_prose, fenceCount_trimChars, joinLines, fenceCount_intercalate (by decide)]
    _ ≤ ((lines text).map fenceCount).sum :=
        (List.filter_sublist.map fenceCount).sum_le_sum fun n _ => Nat.zero_le n
    _ ≤ 1 := sum_fenceCount_lines_le text

/-- Prose has no fences and no blank lines left that reading it again could take out. -/
theorem lines_prose (text : String) :
    lines (parse text).prose = (parse text).prose.toList.splitOn '\n' := by
  rw [lines, stripFences_eq_self (fenceCount_prose text)]

/-- Blanks around a line do not decide whether it is shown. -/
theorem isShown_congr {l k : List Char} (h : Text.trimChars l = Text.trimChars k) :
    isShown l = isShown k := by
  rw [isShown, isShown, all_isBlank_eq, all_isBlank_eq, parseLine?, parseLine?, h]

/-- What is shown of a reply is shown of its prose. -/
theorem shown_prose (h : shown text ≠ []) : shown (parse text).prose = lines (parse text).prose := by
  rw [shown, List.filter_eq_self, lines_prose, splitOn_prose h]
  intro l hl
  -- a line is read without the blanks around it, so the trimmed ends are read as they were before
  obtain ⟨k, hk, htrim, -⟩ := exists_of_mem_trimEnds hl
  rw [isShown_congr htrim]
  exact (List.mem_filter.mp hk).2

/-- The prose of a reply hides no command: it is read as prose and nothing else. -/
theorem parse_prose (text : String) : parse (parse text).prose = ⟨(parse text).prose, []⟩ := by
  by_cases h : shown text = []
  · rw [prose_of_shown_eq_nil h]
    decide +kernel
  have hprose : (parse (parse text).prose).prose = (parse text).prose := by
    rw [← String.toList_inj, toList_prose, shown_prose h, lines_prose, joinLines,
      List.intercalate_splitOn, toList_prose, Text.trimChars_trimChars]
  have hcommands : (parse (parse text).prose).commands = [] := by
    rw [commands_parse, ← shown_prose h, List.filterMap_eq_nil_iff.mpr, List.flatten_nil]
    intro l hl
    have hshown := (List.mem_filter.mp hl).2
    rw [isShown, Bool.and_eq_true, Option.isNone_iff_eq_none] at hshown
    exact hshown.2
  calc parse (parse text).prose
      = ⟨(parse (parse text).prose).prose, (parse (parse text).prose).commands⟩ := rfl
    _ = ⟨(parse text).prose, []⟩ := by rw [hprose, hcommands]

end SheetScript.Reply
