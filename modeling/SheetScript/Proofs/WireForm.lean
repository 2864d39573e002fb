import SheetScript.Proofs.Expansions
import SheetScript.Proofs.Kinds
import SheetScript.Proofs.Prose

/-!
# Commands in their one-line form

A command that was read from a reply fits on a line: its one-line form is read as that command again,
and nothing is shown. What makes it fit is kept by everything the reading does, the expansion of row
macros included.

- `Command.OneLine`: commands that fit on a line.
- `Command.OneLine.parse_wire`: such a command is read from its one-line form.
- `Expansion.oneLine`, `oneLine_of_mem_commands`: all commands of a reply fit on a line.
- `Reply.parse_wire`: the two together.
-/

namespace SheetScript

open Reply

/-! ## Names -/

section

variable {l : List Char} {c : Char}

/-- A label holds letters, digits and underscores. -/
theorem Reply.mem_of_isName (h : isName l = true) (hc : c ∈ l) : c.isAlphanum = true ∨ c = '_' := by
  cases l with
  | nil => cases hc
  | cons d l =>
    rw [isName, Bool.and_eq_true, List.all_eq_true] at h
    rcases List.mem_cons.mp hc with rfl | hc
    · exact Or.inl (by simp [Char.isAlphanum, h.1])
    · simpa using h.2 c hc

theorem Reply.notMem_of_isName (h : isName l = true) (hc : c.isAlphanum = false) (hne : c ≠ '_') :
    c ∉ l := by
  intro hmem
  rcases mem_of_isName h hmem with halnum | rfl
  · rw [hc] at halnum
    cases halnum
  · exact hne rfl

theorem Reply.trimChars_of_isName (h : isName l = true) : Text.trimChars l = l := by
  refine Text.trimChars_of_forall fun c hc => ?_
  rcases mem_of_isName h hc with halnum | rfl
  · exact Text.isBlank_of_isAlphanum halnum
  · rfl

/-- A label in upper case is a label. -/
theorem Reply.isName_map_toUpper (h : isName l = true) : isName (l.map Char.toUpper) = true := by
  cases l with
  | nil => cases h
  | cons d l =>
    rw [isName, Bool.and_eq_true, List.all_eq_true] at h
    rw [List.map_cons, isName, Bool.and_eq_true, List.all_eq_true]
    refine ⟨by rw [Char.isAlpha_toUpper_eq_isAlpha, h.1], ?_⟩
    intro c hc
    obtain ⟨e, he, rfl⟩ := List.mem_map.mp hc
    rcases Bool.or_eq_true_iff.mp (h.2 e he) with he | he
    · rw [Text.isAlphanum_toUpper, he, Bool.true_or]
    · rw [beq_iff_eq.mp he]
      decide

end

/-! ## Commands that fit on a line -/

/-- A command that fits on a line. -/
structure Command.OneLine (c : Command) : Prop where
  named : c.kind.IsNamed
  name : isName c.kind.name.toList = true
  unexpanded : c.kind.isMacro = false
  /-- Without arguments it has to be a bare verb. -/
  bare : c.args = [] → ∃ v : Verb, c.kind = .verb v ∧ v.signature.bare = true
  trimmed : ∀ arg ∈ c.args, Text.trimChars arg.toList = arg.toList
  bars : ∀ arg ∈ c.args, '|' ∉ arg.toList
  newlines : ∀ arg ∈ c.args, '\n' ∉ arg.toList
  fences : (c.args.map fun arg => fenceCount arg.toList).sum ≤ 1

/-- The pieces of the one-line form of a command. -/
def Command.pieces (c : Command) : List (List Char) :=
  c.kind.name.toList :: c.args.map String.toList

/-- The wire form is the kind and the arguments with bars in between. -/
theorem Command.toList_wire (c : Command) : c.wire.toList = ['|'].intercalate c.pieces := by
  rw [wire, wireForm, String.toList_intercalate, List.map_cons]
  rfl

namespace Command.OneLine

variable {c : Command}

/-- No piece of a command from a line holds a bar or a line break. -/
theorem forall_pieces (h : c.OneLine) : ∀ piece ∈ c.pieces, '|' ∉ piece ∧ '\n' ∉ piece := by
  intro piece hpiece
  rcases List.mem_cons.mp hpiece with rfl | hpiece
  · exact ⟨notMem_of_isName h.name (by decide) (by decide),
      notMem_of_isName h.name (by decide) (by decide)⟩
  · obtain ⟨arg, harg, rfl⟩ := List.mem_map.mp hpiece
    exact ⟨h.bars arg harg, h.newlines arg harg⟩

/-- The one-line form has no fences that would be taken out, and it is one line. -/
theorem lines_wire (h : c.OneLine) : lines c.wire = [c.wire.toList] := by
  have hname : fenceCount c.kind.name.toList = 0 :=
    fenceCount_of_forall fun d hd heq =>
      notMem_of_isName h.name (by decide) (by decide) (heq ▸ hd)
  -- no fence reaches over a bar, so those of the arguments are all
  have hfences : fenceCount c.wire.toList ≤ 1 := by
    rw [toList_wire, fenceCount_intercalate (by decide), pieces, List.map_cons, List.sum_cons,
      hname, Nat.zero_add, List.map_map]
    exact h.fences
  have hnewline : '\n' ∉ c.wire.toList := by
    rw [toList_wire]
    intro hmem
    rcases mem_of_mem_intercalate hmem with heq | ⟨piece, hpiece, hmem⟩
    · exact absurd heq (by decide)
    · exact (h.forall_pieces piece hpiece).2 hmem
  rw [lines, stripFences_eq_self hfences, List.splitOn_eq_singleton hnewline]

theorem toList_wire_of_ne_nil (hargs : c.args ≠ []) :
    c.wire.toList = c.kind.name.toList ++ '|' :: ['|'].intercalate (c.args.map String.toList) := by
  rw [toList_wire, pieces, List.intercalate_cons_of_ne_nil (by simpa using hargs), List.append_assoc]
  rfl

/-- A command without arguments is read from its name. -/
theorem parseLine?_wire_of_eq_nil (h : c.OneLine) (hargs : c.args = []) :
    parseLine? c.wire.toList = some [{ c with label := c.wire }] := by
  obtain ⟨kind, args, label⟩ := c
  obtain ⟨v, rfl, hbare⟩ := h.bare hargs
  cases hargs
  have hverb : Verb.ofBareLine? v.name = some v := by
    revert hbare
    cases v <;> decide
  have hbar : '|' ∉ v.name.toList := (h.forall_pieces _ List.mem_cons_self).1
  have hread : parseLine? v.name.toList = some [⟨.verb v, [], v.name⟩] := by
    have htrim : Text.trimChars v.name.toList = v.name.toList := trimChars_of_isName h.name
    rw [parseLine?, htrim, parseTrimmed?_of_notMem hbar, String.ofList_toList, hverb]
    rfl
  exact hread

/-- A command with arguments is read from its pieces. -/
theorem parseLine?_wire_of_ne_nil (h : c.OneLine) (hargs : c.args ≠ []) :
    parseLine? c.wire.toList = some [{ c with label := c.wire }] := by
  have hbar : '|' ∉ c.kind.name.toList := (h.forall_pieces _ List.mem_cons_self).1
  have hname := trimChars_of_isName h.name
  -- the name and the last argument are trimmed, and an empty last argument has a bar before it
  have htrim : Text.trimChars c.wire.toList = c.wire.toList := by
    have hend := trimEnd_intercalate fun piece hpiece => by
      obtain ⟨arg, harg, rfl⟩ := List.mem_map.mp hpiece
      exact Text.trimEnd_of_trimChars (h.trimmed arg harg)
    rw [toList_wire_of_ne_nil hargs, Text.trimChars, trimStart_append_bar, trimEnd_append_bar, hend,
      Text.trimStart_of_trimChars hname]
  have hsplit : (['|'].intercalate (c.args.map String.toList)).splitOn '|' =
      c.args.map String.toList :=
    List.splitOn_intercalate '|' (fun piece hpiece =>
      (h.forall_pieces piece (List.mem_cons_of_mem _ hpiece)).1) (by simpa using hargs)
  have hread : (c.args.map String.toList).map (fun arg => String.ofList (Text.trimChars arg)) =
      c.args := by
    rw [List.map_map]
    refine (List.map_congr_left fun arg harg => ?_).trans (List.map_id c.args)
    show String.ofList (Text.trimChars arg.toList) = arg
    rw [h.trimmed arg harg, String.ofList_toList]
  rw [parseLine?, htrim, toList_wire_of_ne_nil hargs, parseTrimmed?_append_bar hbar,
    Text.trimEnd_of_trimChars hname, if_pos h.name, hsplit, hread, ← toList_wire_of_ne_nil hargs,
    String.ofList_toList, String.ofList_toList, show Kind.ofName c.kind.name = c.kind from h.named,
    expand_of_unexpanded h.unexpanded]

/-- A command that fits on a line is read from its one-line form, and nothing else is. -/
theorem parse_eq (h : c.OneLine) : parse c.wire = ⟨"", [{ c with label := c.wire }]⟩ := by
  have hread : parseLine? c.wire.toList = some [{ c with label := c.wire }] := by
    by_cases hargs : c.args = []
    · exact h.parseLine?_wire_of_eq_nil hargs
    · exact h.parseLine?_wire_of_ne_nil hargs
  have hshown : shown c.wire = [] := by
    rw [shown, h.lines_wire, List.filter_cons_of_neg (by simp [isShown, hread]), List.filter_nil]
  have hcommands : (parse c.wire).commands = [{ c with label := c.wire }] := by
    rw [commands_parse, h.lines_wire, List.filterMap_cons_some hread]
    rfl
  calc parse c.wire = ⟨(parse c.wire).prose, (parse c.wire).commands⟩ := rfl
    _ = ⟨"", [{ c with label := c.wire }]⟩ := by rw [prose_of_shown_eq_nil hshown, hcommands]

end Command.OneLine

/-! ## What is read fits on a line -/

section

variable {kind : Kind} {args : List String} {label : String} {cs : List Command}

/-- The text of a whole row is made of digits and a colon. -/
theorem mem_wholeRow {row : Nat} {c : Char} (h : c ∈ (RowMacro.wholeRow row).toList) :
    c.isAlphanum = true ∨ c = ':' := by
  simp only [RowMacro.wholeRow, String.toList_append, Nat.toList_repr, List.mem_append] at h
  rcases h with (h | h) | h
  · exact Or.inl (Grid.isAlphanum_of_mem_toDigits h)
  · exact Or.inr (List.mem_singleton.mp h)
  · exact Or.inl (Grid.isAlphanum_of_mem_toDigits h)

theorem notMem_wholeRow {c : Char} (hc : c.isAlphanum = false) (hne : c ≠ ':') (row : Nat) :
    c ∉ (RowMacro.wholeRow row).toList := by
  intro hmem
  rcases mem_wholeRow hmem with halnum | rfl
  · rw [hc] at halnum
    cases halnum
  · exact hne rfl

/-- The name of a verb is a label. -/
theorem isName_name (v : Verb) : isName v.name.toList = true := by
  cases v <;> decide

/-- A command on whole rows fits on a line. -/
theorem oneLine_rows (v : Verb) (rows : List Nat) (hv : v.isMacro = false) (hrows : rows ≠ [])
    (label : String) : Command.OneLine ⟨.verb v, rows.map RowMacro.wholeRow, label⟩ where
  named := Kind.isNamed_verb v
  name := isName_name v
  unexpanded := hv
  bare hnil := absurd (List.map_eq_nil_iff.mp hnil) hrows
  trimmed := by
    refine List.forall_mem_map.mpr fun row _ => Text.trimChars_of_forall fun c hc => ?_
    rcases mem_wholeRow hc with halnum | rfl
    · exact Text.isBlank_of_isAlphanum halnum
    · rfl
  bars := List.forall_mem_map.mpr fun row _ => notMem_wholeRow (by decide) (by decide) row
  newlines := List.forall_mem_map.mpr fun row _ => notMem_wholeRow (by decide) (by decide) row
  fences := by
    have hzero : ∀ n ∈ (rows.map RowMacro.wholeRow).map fun arg => fenceCount arg.toList, n = 0 := by
      rw [List.map_map]
      refine List.forall_mem_map.mpr fun row _ => fenceCount_of_forall fun d hd heq => ?_
      exact notMem_wholeRow (by decide) (by decide) row (heq ▸ hd)
    rw [List.sum_eq_zero hzero]
    exact Nat.zero_le 1

/-- The reasons are plain words. -/
theorem forall_reasons : ∀ reason ∈ RowMacro.reasons,
    Text.trimChars reason.toList = reason.toList ∧ '|' ∉ reason.toList ∧ '\n' ∉ reason.toList ∧
      backquote ∉ reason.toList := by
  decide +kernel

/-- A failure of a row macro fits on a line. -/
theorem oneLine_failure {reason : String} (h : reason ∈ RowMacro.reasons) (label : String) :
    (Command.failure reason label).OneLine := by
  obtain ⟨htrimmed, hbar, hnewline, hquote⟩ := forall_reasons reason h
  have hname : isName Kind.failedName.toList = true := by decide
  have hfences : fenceCount reason.toList = 0 :=
    fenceCount_of_forall fun d hd heq => hquote (heq ▸ hd)
  exact
    { named := Kind.isNamed_failed
      name := hname
      unexpanded := rfl
      bare := fun hnil => absurd hnil (List.cons_ne_nil reason [])
      trimmed := List.forall_mem_singleton.mpr htrimmed
      bars := List.forall_mem_singleton.mpr hbar
      newlines := List.forall_mem_singleton.mpr hnewline
      fences := by simp [Command.failure, hfences] }

/-- What a line stands for fits on a line, if the line itself does. -/
theorem Expansion.oneLine (h : Expansion kind args label cs)
    (hsame : kind.isMacro = false → Command.OneLine ⟨kind, args, label⟩) : ∀ c ∈ cs, c.OneLine := by
  have hinsert : ∀ row label, (RowMacro.insertRow row label).OneLine := fun row =>
    oneLine_rows .insertRows [row] rfl (by simp)
  have hdelete : ∀ row label, (RowMacro.deleteRow row label).OneLine := fun row =>
    oneLine_rows .deleteRows [row] rfl (by simp)
  have hcopy : ∀ a b label, (RowMacro.copyRowTo a b label).OneLine := fun a b =>
    oneLine_rows .copy [a, b] rfl (by simp)
  cases h with
  | same unexpanded => simpa using hsame unexpanded
  | failure known => simpa using oneLine_failure known label
  | move hs ht hcs =>
    obtain ⟨-, -, l₁, l₂, l₃, rfl⟩ := RowMacro.moveRow?_eq_some hs.2 ht.2 hcs
    simp [hinsert, hdelete, hcopy]
  | copy hs ht => simp [hcopy]
  | swap ha hb hcs =>
    obtain ⟨-, l₁, l₂, l₃, l₄, l₅, rfl⟩ := RowMacro.swapRows?_eq_some hcs
    simp [hinsert, hdelete, hcopy]

/-- A kind that was found under a name has a name. -/
theorem isName_name_ofName {name : List Char} (h : isName name = true) :
    isName (Kind.ofName (String.ofList name)).name.toList = true := by
  rw [Kind.name_ofName, Text.toList_upperAscii, Text.toList_trim, String.toList_ofList,
    trimChars_of_isName h]
  exact isName_map_toUpper h

/-- A kind and the pieces of a line fit on a line. -/
theorem oneLine_pieces (hnamed : kind.IsNamed) (hname : isName kind.name.toList = true)
    (hplain : kind.isMacro = false) {m : List Char} (hnewline : '\n' ∉ m)
    (hfences : fenceCount m ≤ 1) (label : String) :
    Command.OneLine
      ⟨kind, (m.splitOn '|').map fun arg => String.ofList (Text.trimChars arg), label⟩ where
  named := hnamed
  name := hname
  unexpanded := hplain
  bare hnil := absurd (List.map_eq_nil_iff.mp hnil) (List.splitOn_ne_nil _ _)
  trimmed := List.forall_mem_map.mpr fun piece _ => by
    rw [String.toList_ofList, Text.trimChars_trimChars]
  bars := List.forall_mem_map.mpr fun piece hpiece => by
    rw [String.toList_ofList]
    exact fun hmem => notMem_of_mem_splitOn hpiece (Text.mem_of_mem_trimChars hmem)
  newlines := List.forall_mem_map.mpr fun piece hpiece => by
    rw [String.toList_ofList]
    exact fun hmem => hnewline (subset_of_mem_splitOn hpiece (Text.mem_of_mem_trimChars hmem))
  fences := by
    have hcounts : ((m.splitOn '|').map fun arg => String.ofList (Text.trimChars arg)).map
        (fun arg => fenceCount arg.toList) = (m.splitOn '|').map fenceCount := by
      rw [List.map_map]
      refine List.map_congr_left fun piece _ => ?_
      show fenceCount (String.ofList (Text.trimChars piece)).toList = fenceCount piece
      rw [String.toList_ofList, fenceCount_trimChars]
    rw [hcounts, sum_fenceCount_splitOn (by decide)]
    exact hfences

/-- No verb that may stand alone is a macro. -/
theorem Verb.isMacro_of_bare {v : Verb} (h : v.signature.bare = true) : v.isMacro = false := by
  revert h
  cases v <;> decide

/-- A bare verb fits on a line. -/
theorem oneLine_bare {v : Verb} (h : v.signature.bare = true) (label : String) :
    Command.OneLine ⟨.verb v, [], label⟩ where
  named := Kind.isNamed_verb v
  name := isName_name v
  unexpanded := Verb.isMacro_of_bare h
  bare _ := ⟨v, rfl, h⟩
  trimmed := List.forall_mem_nil _
  bars := List.forall_mem_nil _
  newlines := List.forall_mem_nil _
  fences := Nat.zero_le 1

/-- What a line without a pair of fences stands for fits on a line. -/
theorem oneLine_of_parseTrimmed? {line : List Char} (hnewline : '\n' ∉ line)
    (hfences : fenceCount line ≤ 1) (h : parseTrimmed? line = some cs) : ∀ c ∈ cs, c.OneLine := by
  by_cases hbar : '|' ∈ line
  · obtain ⟨l, m, rfl, hl⟩ := List.eq_append_cons_of_mem hbar
    rw [parseTrimmed?_append_bar hl] at h
    split at h
    next hname =>
      rw [fenceCount_append_cons (by decide)] at hfences
      have hm : '\n' ∉ m := fun hmem =>
        hnewline (List.mem_append_right _ (List.mem_cons_of_mem _ hmem))
      rw [← Option.some.inj h]
      exact (expansion_expand _ _ _).oneLine fun hplain =>
        oneLine_pieces (Kind.isNamed_ofName _) (isName_name_ofName hname) hplain hm (by omega) _
    next => cases h
  · rw [parseTrimmed?_of_notMem hbar, Option.map_eq_some_iff] at h
    obtain ⟨v, hv, rfl⟩ := h
    have hbare : v.signature.bare = true := by
      have hfound := List.find?_some hv
      exact (Bool.and_eq_true_iff.mp hfound).1
    exact List.forall_mem_singleton.mpr (oneLine_bare hbare _)

end

/-- Every command of a reply fits on a line. -/
theorem oneLine_of_mem_commands {text : String} {c : Command} (h : c ∈ (parse text).commands) :
    c.OneLine := by
  rw [commands_parse, List.mem_flatten] at h
  obtain ⟨cs, hcs, hc⟩ := h
  obtain ⟨line, hline, hread⟩ := List.mem_filterMap.mp hcs
  have hnewline : '\n' ∉ Text.trimChars line := fun hmem =>
    newline_notMem_of_mem_lines hline (Text.mem_of_mem_trimChars hmem)
  -- two fences on one line would have been a pair in the text
  have hfences : fenceCount (Text.trimChars line) ≤ 1 := by
    rw [fenceCount_trimChars]
    calc fenceCount line
        ≤ ((lines text).map fenceCount).sum := List.le_sum_of_mem (List.mem_map_of_mem hline)
      _ ≤ 1 := sum_fenceCount_lines_le text
  exact oneLine_of_parseTrimmed? hnewline hfences hread c hc

/-- A command of a reply is read from its one-line form: it has the same kind and the same arguments,
and the form for its label. Nothing else is read, and nothing is shown. -/
theorem Reply.parse_wire {text : String} {c : Command} (h : c ∈ (parse text).commands) :
    parse c.wire = ⟨"", [{ c with label := c.wire }]⟩ :=
  (oneLine_of_mem_commands h).parse_eq

/-- A command whose last argument is a fence without a partner. -/
def Command.loneFence : Command :=
  ⟨.unknown "NOTE", ["a", "", "```"], "note | a ||```"⟩

/-- A command whose last argument is a lone fence. -/
theorem Reply.parse_wire_loneFence :
    Command.loneFence ∈ (parse "Look: ```x```\nnote | a ||```").commands ∧
      Command.loneFence.wire = "NOTE|a||```" ∧
      parse Command.loneFence.wire =
        ⟨"", [{ Command.loneFence with label := Command.loneFence.wire }]⟩ := by
  have h : Command.loneFence ∈ (parse "Look: ```x```\nnote | a ||```").commands := by decide +kernel
  exact ⟨h, by decide +kernel, parse_wire h⟩

end SheetScript
