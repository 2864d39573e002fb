import SheetScript.Proofs.WireForm

/-!
# Code blocks in replies

A code block is opened and closed by a fence. The opening fence takes with it the word that follows it,
which is meant to be a tag, and the line end behind that word. So a block whose fences are on lines of
their own is read as its plain lines are, but within a line that starts with a fence, the name of a
command passes for the tag.

- `fenceCount_eq_zero_iff_not_isInfixOf`: a text without fences has no three backquotes in a row.
- `cutAtFence_append_fence`, `stripFences_of_cuts`: the first fence of a text, and the first block.
- `parse_congr`: blank lines are of no account.
- `parse_block`: a block on lines of its own is read as its plain lines.
- `parseLine?_dropWhile_isWord`: a command line without its first word is prose.
- `commands_parse_fencedLine`: the command lines that start with a blank, and no others, are read
  between two fences.
-/

namespace SheetScript

/-- Blanks and bars are no word characters. -/
theorem Text.isWord_of_isBlank_or_bar {c : Char} (h : isBlank c = true ∨ c = '|') :
    isWord c = false := by
  have hranges : ∀ r ∈ wordRanges, 0x3000 < r.1 ∨ ∀ b ∈ [(9, 13), (0x20, 0x20), (0x7C, 0x7C),
      (0x85, 0x85), (0xA0, 0xA0), (0x1680, 0x1680), (0x2000, 0x200A), (0x2028, 0x2029),
      (0x202F, 0x202F), (0x205F, 0x205F), (0x3000, 0x3000)], r.2 < b.1 ∨ b.2 < r.1 := by
    decide +kernel
  have hcode : isBlank c = true ∨ c.toNat = 0x7C := h.imp_right (congrArg Char.toNat)
  refine List.any_eq_false.mpr fun r hr hmem => ?_
  have hblank := hranges r hr
  simp only [List.forall_mem_cons] at hblank
  simp only [isBlank, Bool.or_eq_true, Bool.and_eq_true, decide_eq_true_eq, beq_iff_eq] at hcode hmem
  omega

/-- Names are made of word characters. -/
theorem Text.isWord_of_nameChar {c : Char} (h : c.isAlphanum = true ∨ c = '_') :
    isWord c = true := by
  have hrange : ∀ r ∈ wordRanges, r.1 ≤ c.toNat → c.toNat ≤ r.2 → isWord c = true :=
    fun r hr hfirst hlast => List.any_eq_true.mpr ⟨r, hr, by simp [hfirst, hlast]⟩
  rcases h with h | rfl
  · rcases Bool.or_eq_true_iff.mp h with halpha | hdigit
    · rcases isAlpha_iff.mp halpha with hupper | hlower
      · exact hrange (0x41, 0x5A) (by decide) hupper.1 hupper.2
      · exact hrange (0x61, 0x7A) (by decide) hlower.1 hlower.2
    · rw [isDigit_iff] at hdigit
      exact hrange (0x30, 0x39) (by decide) hdigit.1 hdigit.2
  · exact hrange (0x5F, 0x5F) (by decide) (by decide) (by decide)

namespace Reply

section

variable {cs before opened inside after p q tag : List Char}

/-! ## Blocks -/

/-- A text has no fences if it has no three backquotes in a row. -/
theorem fenceCount_eq_zero_iff_not_isInfixOf : fenceCount cs = 0 ↔ ¬fence <:+: cs := by
  rw [fenceCount_eq_zero_iff]
  constructor
  · rintro hnone ⟨l, m, rfl⟩
    induction l with
    | nil =>
      rw [List.nil_append, cutAtFence_of_isPrefixOf (by simp)] at hnone
      cases hnone
    | cons c l ih =>
      cases hfence : fence.isPrefixOf (c :: (l ++ fence ++ m)) with
      | true =>
        rw [List.cons_append, List.cons_append, cutAtFence_of_isPrefixOf hfence] at hnone
        cases hnone
      | false =>
        rw [List.cons_append, List.cons_append, cutAtFence_cons hfence,
          Option.map_eq_none_iff] at hnone
        exact ih hnone
  · intro hinfix
    rcases hcut : cutAtFence cs with _ | ⟨before, after⟩
    · rfl
    · exact absurd ⟨before, after, (eq_append_of_cutAtFence hcut).symm⟩ hinfix

/-- Texts that meet behind another character than a backquote have the fences of both. -/
theorem fenceCount_append (hlast : ∀ c, p.getLast? = some c → c ≠ backquote) (q : List Char) :
    fenceCount (p ++ q) = fenceCount p + fenceCount q := by
  rcases List.eq_nil_or_concat' p with rfl | ⟨init, c, rfl⟩
  · simp
  · have hc : c ≠ backquote := hlast c (by simp)
    rw [List.append_assoc, List.singleton_append, fenceCount_append_cons hc,
      fenceCount_append_cons hc, fenceCount_nil, Nat.add_zero]

/-- The first fence comes where it was put, unless there is one before it or a backquote leads up to
it. -/
theorem cutAtFence_append_fence (hbefore : fenceCount before = 0)
    (hlast : ∀ c, before.getLast? = some c → c ≠ backquote) (m : List Char) :
    cutAtFence (before ++ fence ++ m) = some (before, m) := by
  have hfirst : cutAtFence (fence ++ m) = some ([], m) := by
    rw [cutAtFence_of_isPrefixOf (by simp), List.drop_left]
  rcases List.eq_nil_or_concat' before with rfl | ⟨init, c, rfl⟩
  · exact hfirst
  · have hc : c ≠ backquote := hlast c (by simp)
    have hinit : cutAtFence init = none := by
      rw [fenceCount_append_cons hc, Nat.add_eq_zero_iff] at hbefore
      exact fenceCount_eq_zero_iff.mp hbefore.1
    rw [List.append_assoc, List.append_assoc, List.singleton_append,
      cutAtFence_append_of_none hc _ hinit, hfirst]
    rfl

/-- The fences of the first block are dropped, with the tag. -/
theorem stripFences_of_cuts (hopen : cutAtFence cs = some (before, opened))
    (hclose : cutAtFence (dropTag opened) = some (inside, after)) :
    stripFences cs = before ++ inside ++ stripFences after := by
  rw [stripFences]
  split
  next hnone => simp [hopen] at hnone
  next hsome =>
    rw [hopen] at hsome
    cases hsome
    split
    next hnone => simp [hclose] at hnone
    next hsome =>
      rw [hclose] at hsome
      cases hsome
      rfl

/-- The only block of a text. -/
theorem stripFences_block (hbefore : fenceCount before = 0)
    (hfirst : ∀ c, before.getLast? = some c → c ≠ backquote)
    (hinside : fenceCount inside = 0) (hlast : ∀ c, inside.getLast? = some c → c ≠ backquote)
    (hafter : fenceCount after = 0) (hopened : dropTag opened = inside ++ fence ++ after) :
    stripFences (before ++ fence ++ opened) = before ++ inside ++ after := by
  have hclose : cutAtFence (dropTag opened) = some (inside, after) := by
    rw [hopened, cutAtFence_append_fence hinside hlast]
  rw [stripFences_of_cuts (cutAtFence_append_fence hbefore hfirst opened) hclose,
    stripFences_eq_self (by omega)]

/-- The tag behind a fence is dropped with its line break. -/
theorem dropTag_append_newline (htag : ∀ c ∈ tag, Text.isWord c = true) (m : List Char) :
    dropTag (tag ++ '\n' :: m) = m := by
  rw [dropTag, List.dropWhile_append_of_pos htag,
    List.dropWhile_cons_of_neg (by simp [Text.isWord_newline])]
  rfl

/-- A block with its fences on lines of their own leaves its plain lines and an empty one. -/
theorem stripFences_lineBlock (hbefore : fenceCount before = 0)
    (hfirst : ∀ c, before.getLast? = some c → c ≠ backquote)
    (htag : ∀ c ∈ tag, Text.isWord c = true) (hinside : fenceCount inside = 0)
    (hafter : fenceCount after = 0) :
    stripFences (before ++ fence ++ (tag ++ '\n' :: (inside ++ '\n' :: (fence ++ after)))) =
      before ++ inside ++ '\n' :: after := by
  have hnewline : '\n' ≠ backquote := by decide
  have hlines : fenceCount (inside ++ ['\n']) = 0 := by
    rw [fenceCount_append_cons hnewline, hinside, fenceCount_nil]
  have hopened : dropTag (tag ++ '\n' :: (inside ++ '\n' :: (fence ++ after))) =
      inside ++ ['\n'] ++ fence ++ after := by
    rw [dropTag_append_newline htag]
    simp
  rw [stripFences_block hbefore hfirst hlines (by simp [hnewline]) hafter hopened]
  simp

/-- Texts without fences that meet at line ends are a text without fences. -/
theorem fenceCount_plainLines (hbefore : fenceCount before = 0)
    (hfirst : ∀ c, before.getLast? = some c → c ≠ backquote) (hinside : fenceCount inside = 0)
    (hafter : fenceCount after = 0) (hline : after = [] ∨ ∃ r, after = '\n' :: r) :
    fenceCount (before ++ inside ++ after) = 0 := by
  have hnewline : '\n' ≠ backquote := by decide
  rw [List.append_assoc, fenceCount_append hfirst, hbefore]
  rcases hline with rfl | ⟨r, rfl⟩
  · rw [List.append_nil, hinside]
  · rw [← List.nil_append (_ :: r), fenceCount_append_cons hnewline] at hafter
    rw [fenceCount_append_cons hnewline, hinside]
    omega

/-! ## Blank lines -/

theorem parseTrimmed?_nil : parseTrimmed? [] = none := by
  rw [parseTrimmed?_of_notMem List.not_mem_nil]
  rfl

/-- A blank line is no command. -/
theorem parseLine?_of_isBlank {line : List Char} (h : line.all Text.isBlank = true) :
    parseLine? line = none := by
  rw [all_isBlank_eq, decide_eq_true_iff] at h
  rw [parseLine?, h, parseTrimmed?_nil]

/-- Replies with the same lines but for blank ones are read alike. -/
theorem parse_congr {a b : String}
    (h : (lines a).filter (!·.all Text.isBlank) = (lines b).filter (!·.all Text.isBlank)) :
    parse a = parse b := by
  have hread : ∀ ls : List (List Char), ls.filterMap parseLine? =
      (ls.filter (!·.all Text.isBlank)).filterMap parseLine? := by
    intro ls
    rw [List.filterMap_filter]
    refine List.filterMap_congr fun line _ => ?_
    cases hblank : line.all Text.isBlank with
    | true => simpa using parseLine?_of_isBlank hblank
    | false => simp
  have hshown : ∀ ls : List (List Char), ls.filter isShown =
      (ls.filter (!·.all Text.isBlank)).filter isShown := by
    intro ls
    rw [List.filter_filter]
    refine List.filter_congr fun line _ => ?_
    rw [isShown]
    cases line.all Text.isBlank <;> simp
  have hcommands : (parse a).commands = (parse b).commands := by
    rw [commands_parse, commands_parse, hread, h, ← hread]
  have hprose : (parse a).prose = (parse b).prose := by
    rw [← String.toList_inj, toList_prose, toList_prose, shown, hshown, h, ← hshown, shown]
  calc parse a = ⟨(parse a).prose, (parse a).commands⟩ := rfl
    _ = ⟨(parse b).prose, (parse b).commands⟩ := by rw [hprose, hcommands]

/-- A line end before the rest of a text makes a blank line at most. -/
theorem filter_splitOn_append_newline (p : List Char) (hq : q = [] ∨ ∃ r, q = '\n' :: r) :
    ((p ++ '\n' :: q).splitOn '\n').filter (!·.all Text.isBlank) =
      ((p ++ q).splitOn '\n').filter (!·.all Text.isBlank) := by
  rcases hq with rfl | ⟨r, rfl⟩
  · simp [List.splitOn_append_cons_self]
  · rw [List.splitOn_append_cons_self, List.splitOn_append_cons_self, ← List.nil_append ('\n' :: r),
      List.splitOn_append_cons_self]
    simp

end

/-! ## Blocks on lines of their own -/

theorem toList_fence : "```".toList = fence := rfl

/-- A block whose fences are on lines of their own is read as its plain lines are, whatever its tag is
and whatever stands around it. -/
theorem parse_block {before tag after : String} {body : List String}
    (hbefore : before = "" ∨ ∃ init, before = init ++ "\n")
    (htag : ∀ c ∈ tag.toList, Text.isWord c = true)
    (hafter : after = "" ∨ ∃ rest, after = "\n" ++ rest)
    (hfences : ∀ text ∈ before :: after :: body, ¬fence <:+: text.toList) :
    parse (before ++ "```" ++ tag ++ "\n" ++ "\n".intercalate body ++ "\n" ++ "```" ++ after) =
      parse (before ++ "\n".intercalate body ++ after) := by
  obtain ⟨hpre, hpost, hlines⟩ := by simpa only [List.forall_mem_cons] using hfences
  rw [← fenceCount_eq_zero_iff_not_isInfixOf] at hpre hpost
  have hnewline : '\n' ≠ backquote := by decide
  have hbody : fenceCount ("\n".intercalate body).toList = 0 := by
    have hzero : ∀ n ∈ (body.map String.toList).map fenceCount, n = 0 := by
      simpa [fenceCount_eq_zero_iff_not_isInfixOf] using hlines
    rw [String.toList_intercalate, show "\n".toList = ['\n'] from rfl,
      fenceCount_intercalate hnewline, List.sum_eq_zero hzero]
  -- both texts around the block meet it at a line end
  have hends : ∀ c, before.toList.getLast? = some c → c ≠ backquote := by
    rcases hbefore with rfl | ⟨init, rfl⟩
    · rintro c ⟨⟩
    · rintro c hc
      obtain rfl : '\n' = c := by simpa using hc
      exact hnewline
  have hrest : after.toList = [] ∨ ∃ r, after.toList = '\n' :: r := by
    rcases hafter with rfl | ⟨rest, rfl⟩
    · exact Or.inl rfl
    · exact Or.inr ⟨rest.toList, by simp⟩
  have hfencedText : (before ++ "```" ++ tag ++ "\n" ++ "\n".intercalate body ++ "\n" ++ "```" ++
      after).toList = before.toList ++ fence ++ (tag.toList ++
        '\n' :: (("\n".intercalate body).toList ++ '\n' :: (fence ++ after.toList))) := by
    simp [toList_fence]
  have hblank := filter_splitOn_append_newline
    (before.toList ++ ("\n".intercalate body).toList) hrest
  refine parse_congr ?_
  rw [lines, lines, hfencedText, stripFences_lineBlock hpre hends htag hbody hpost,
    String.toList_append, String.toList_append,
    stripFences_eq_self (Nat.le_succ_of_le
      (fenceCount_plainLines hpre hends hbody hpost hrest).le), hblank]

/-- A tagged block between two lines of prose. -/
theorem parse_block_tagged :
    parse "Applying:\n```text\nSET_VALUE|A1|1\n\nCLEAR|B1\n```\nAll set." =
      parse "Applying:\nSET_VALUE|A1|1\n\nCLEAR|B1\nAll set." :=
  have hletters : "text".toList.all Char.isAlphanum = true := by decide
  @parse_block "Applying:\n" "text" "\nAll set." ["SET_VALUE|A1|1", "", "CLEAR|B1"]
    (Or.inr ⟨"Applying:", rfl⟩)
    (fun c hc => Text.isWord_of_nameChar (Or.inl (List.all_eq_true.mp hletters c hc)))
    (Or.inr ⟨"All set.", rfl⟩) (by decide)

/-! ## Blocks within a line -/

section

variable {line : List Char} {cs : List Command}

/-- Within a line, the word behind a fence passes for a tag. -/
theorem dropTag_eq_dropWhile (h : '\n' ∉ line) : dropTag line = line.dropWhile Text.isWord := by
  rw [dropTag]
  split
  next m hm =>
    have hmem : '\n' ∈ line.dropWhile Text.isWord := hm ▸ List.mem_cons_self
    exact absurd (List.dropWhile_subset _ hmem) h
  next => rfl

/-- A command line that does not start with a blank is a word and blanks, and then it is at its end or
at a bar. -/
theorem exists_word_of_parseLine? (hhead : line.head?.any Text.isBlank = false)
    (h : parseLine? line = some cs) :
    ∃ word blanks rest, line = word ++ (blanks ++ rest) ∧ (∀ c ∈ word, Text.isWord c = true) ∧
      (∀ c ∈ blanks, Text.isBlank c = true) ∧ (rest = [] ∨ ∃ m, rest = '|' :: m) := by
  have hstart : Text.trimStart line = line := by
    cases line with
    | nil => rfl
    | cons c line => exact Text.trimStart_of_head hhead
  rw [parseLine?, Text.trimChars, hstart] at h
  by_cases hbar : '|' ∈ line
  · obtain ⟨l, m, rfl, hl⟩ := List.eq_append_cons_of_mem hbar
    rw [trimEnd_append_bar, parseTrimmed?_append_bar hl] at h
    split at h
    next hname =>
      obtain ⟨blanks, hblanks, hsplit⟩ := Text.exists_trimEnd_append l
      refine ⟨Text.trimEnd l, blanks, '|' :: m, ?_, fun c hc => ?_, hblanks, Or.inr ⟨m, rfl⟩⟩
      · rw [← List.append_assoc, ← hsplit]
      · exact Text.isWord_of_nameChar (mem_of_isName hname hc)
    next => cases h
  · obtain ⟨blanks, hblanks, hsplit⟩ := Text.exists_trimEnd_append line
    have hend : '|' ∉ Text.trimEnd line := fun hmem =>
      hbar ((Text.trimEnd_prefix_self line).subset hmem)
    rw [parseTrimmed?_of_notMem hend, Option.map_eq_some_iff] at h
    obtain ⟨v, hv, -⟩ := h
    have hname : v.name.toList = (Text.trimEnd line).map Char.toUpper := by
      have hfound := List.find?_some hv
      rw [beq_iff_eq.mp (Bool.and_eq_true_iff.mp hfound).2, Text.toList_upperAscii,
        String.toList_ofList]
    refine ⟨Text.trimEnd line, blanks, [], ?_, fun c hc => ?_, hblanks, Or.inl rfl⟩
    · rw [List.append_nil]
      exact hsplit
    · have hmem : c.toUpper ∈ v.name.toList := hname ▸ List.mem_map_of_mem hc
      rcases mem_of_isName (isName_name v) hmem with halnum | hunderscore
      · exact Text.isWord_of_nameChar (Or.inl (by rwa [Text.isAlphanum_toUpper] at halnum))
      · have halpha : ¬c.isAlpha = true := by
          rw [← Char.isAlpha_toUpper_eq_isAlpha, hunderscore]
          decide
        rw [Text.toUpper_of_not_isAlpha halpha] at hunderscore
        exact Text.isWord_of_nameChar (Or.inr hunderscore)

/-- A line that is recognized stands for at least one command. -/
theorem ne_nil_of_parseTrimmed? (h : parseTrimmed? line = some cs) : cs ≠ [] := by
  by_cases hbar : '|' ∈ line
  · obtain ⟨l, m, rfl, hl⟩ := List.eq_append_cons_of_mem hbar
    rw [parseTrimmed?_append_bar hl] at h
    split at h
    next =>
      rw [← Option.some.inj h]
      exact (expansion_expand _ _ _).ne_nil
    next => cases h
  · rw [parseTrimmed?_of_notMem hbar, Option.map_eq_some_iff] at h
    obtain ⟨v, -, rfl⟩ := h
    exact List.cons_ne_nil _ _

/-- A command line without its first word is prose. -/
theorem parseLine?_dropWhile_isWord (hhead : line.head?.any Text.isBlank = false)
    (h : parseLine? line = some cs) : parseLine? (line.dropWhile Text.isWord) = none := by
  obtain ⟨word, blanks, rest, rfl, hword, hblanks, hrest⟩ := exists_word_of_parseLine? hhead h
  -- what follows the word starts with a blank or a bar, so the word ends there
  have hdrop : (blanks ++ rest).dropWhile Text.isWord = blanks ++ rest := by
    cases blanks with
    | nil =>
      rcases hrest with rfl | ⟨m, rfl⟩
      · rfl
      · exact List.dropWhile_cons_of_neg (by simp [Text.isWord_of_isBlank_or_bar (Or.inr rfl)])
    | cons c blanks =>
      have hc : Text.isWord c = false := 
        Text.isWord_of_isBlank_or_bar (Or.inl (hblanks c List.mem_cons_self))
      exact List.dropWhile_cons_of_neg (by simp [hc])
  rw [List.dropWhile_append_of_pos hword, hdrop]
  rcases hrest with rfl | ⟨m, rfl⟩
  · exact parseLine?_of_isBlank (by simpa using hblanks)
  · rw [parseLine?, Text.trimChars_append_of_blank hblanks, Text.trimChars,
      Text.trimStart_of_head isBlank_bar, ← List.nil_append ('|' :: m), trimEnd_append_bar,
      parseTrimmed?_append_bar List.not_mem_nil]
    rfl

end

/-- Of a line between two fences there remains what follows its first word. -/
theorem lines_fencedLine {line : String} (hquote : backquote ∉ line.toList)
    (hnewline : '\n' ∉ line.toList) :
    lines ("```" ++ line ++ "```") = [line.toList.dropWhile Text.isWord] := by
  have hrest : line.toList.dropWhile Text.isWord ⊆ line.toList := List.dropWhile_subset _
  have hquotes : ∀ c ∈ line.toList.dropWhile Text.isWord, c ≠ backquote :=
    fun c hc heq => hquote (heq ▸ hrest hc)
  have hfence : fence.dropWhile Text.isWord = fence :=
    List.dropWhile_cons_of_neg (by simp [Text.isWord_backquote])
  have hopened : dropTag (line.toList ++ fence) = line.toList.dropWhile Text.isWord ++ fence ++ [] := by
    rw [dropTag_eq_dropWhile (by simpa [fence] using hnewline), List.append_nil,
      List.dropWhile_append]
    split
    next hnil => rw [hfence, List.isEmpty_iff.mp hnil, List.nil_append]
    next => rfl
  have hstrip : stripFences ("```" ++ line ++ "```").toList = line.toList.dropWhile Text.isWord := by
    have hblock : stripFences ([] ++ fence ++ (line.toList ++ fence)) =
        [] ++ line.toList.dropWhile Text.isWord ++ [] :=
      stripFences_block fenceCount_nil (by simp) (fenceCount_of_forall hquotes)
        (fun c hc => hquotes c (List.mem_of_getLast? hc)) fenceCount_nil hopened
    simpa [toList_fence] using hblock
  rw [lines, hstrip, List.splitOn_eq_singleton fun hmem => hnewline (hrest hmem)]

/-- Between two fences on its line, a command line is read if it starts with a blank. Otherwise its first
word is taken for a tag, and nothing is read. -/
theorem commands_parse_fencedLine {line : String} {cs : List Command}
    (hquote : backquote ∉ line.toList) (hnewline : '\n' ∉ line.toList)
    (h : parseLine? line.toList = some cs) :
    cs ≠ [] ∧ (parse line).commands = cs ∧
      (parse ("```" ++ line ++ "```")).commands =
        if line.toList.head?.any Text.isBlank then cs else [] := by
  refine ⟨ne_nil_of_parseTrimmed? h, ?_, ?_⟩
  · have hplain : fenceCount line.toList = 0 :=
      fenceCount_of_forall fun d hd heq => hquote (heq ▸ hd)
    rw [commands_parse, lines, stripFences_eq_self (by omega), List.splitOn_eq_singleton hnewline]
    simp [h]
  · rw [commands_parse, lines_fencedLine hquote hnewline]
    cases hhead : line.toList.head?.any Text.isBlank with
    | true =>
      have hstay : line.toList.dropWhile Text.isWord = line.toList := by
        cases hline : line.toList with
        | nil => rfl
        | cons c rest =>
          rw [hline] at hhead
          exact List.dropWhile_cons_of_neg (by simp [Text.isWord_of_isBlank_or_bar (Or.inl hhead)])
      simp [hstay, h]
    | false => simp [parseLine?_dropWhile_isWord hhead h]

theorem commands_parse_fencedLine_bareUndo :
    parseLine? " undo".toList = some [⟨.verb .undo, [], "undo"⟩] ∧
      [(⟨.verb .undo, [], "undo"⟩ : Command)] ≠ [] ∧
      (parse " undo").commands = [⟨.verb .undo, [], "undo"⟩] ∧
      (parse "``` undo```").commands = [⟨.verb .undo, [], "undo"⟩] := by
  have h : parseLine? " undo".toList = some [⟨.verb .undo, [], "undo"⟩] := rfl
  exact ⟨h, commands_parse_fencedLine (by decide) (by decide) h⟩

/-- The name of a command is lost with the fence before it. -/
theorem parse_fencedSetValue :
    (parse "SET_VALUE|A1|x").commands = [⟨.verb .setValue, ["A1", "x"], "SET_VALUE|A1|x"⟩] ∧
      parse "```SET_VALUE|A1|x```" = ⟨"|A1|x", []⟩ := by
  decide +kernel

end Reply

end SheetScript
