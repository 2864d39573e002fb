import SheetScript.Proofs.LineGrammar

/-!
# What a line stands for

The grammar of lines as a reader would put it: a line is trimmed, compared with the two bare verbs, and
otherwise cut at its bars. It is written down here on its own and compared with the parser, which takes
the blanks around the bars out first and cuts afterwards.

- `Reply.IsLabel`, `Reply.pieces`, `Reply.IsBare`: the parts of the grammar.
- `Reply.StandsFor`: the grammar. A line is a bare verb, a label with arguments, or prose.
- `StandsFor.unique`: a line stands for one thing only.
- `parseLine?_eq_iff`: the parser gives what the line stands for.
-/

namespace SheetScript.Reply

/-! ## The grammar -/

/-- The letters `A` to `Z` and `a` to `z`. -/
def IsLetter (c : Char) : Prop :=
  ('A' ≤ c ∧ c ≤ 'Z') ∨ ('a' ≤ c ∧ c ≤ 'z')

/-- A letter, and behind it letters, digits and underscores. -/
inductive IsLabel : List Char → Prop
  | mk (c : Char) (cs : List Char) : IsLetter c →
    (∀ d ∈ cs, IsLetter d ∨ ('0' ≤ d ∧ d ≤ '9') ∨ d = '_') → IsLabel (c :: cs)

/-- The pieces of a line between its bars, each without the blanks around it. -/
def pieces (line : List Char) : List (List Char) :=
  (line.splitOn '|').map Text.trimChars

/-- Whether a line is a verb that takes no arguments, in any case. -/
def IsBare (line : List Char) (verb : Verb) : Prop :=
  (verb = .undo ∨ verb = .deleteAllCharts) ∧
    Text.sameIgnoringCase (String.ofList line) verb.name = true

/-- What a line without blanks around it stands for: commands, or nothing if it is prose. -/
inductive StandsFor (line : List Char) : Option (List Command) → Prop
  | bare (verb : Verb) (hbare : IsBare line verb) :
    StandsFor line (some [⟨.verb verb, [], String.ofList line⟩])
  | piped (label : List Char) (args : List (List Char)) (hbare : ∀ verb, ¬IsBare line verb)
    (hpieces : pieces line = label :: args) (hargs : args ≠ []) (hcount : args.length = line.count '|')
    (hlabel : IsLabel label) :
    StandsFor line (some (expand (.ofName (String.ofList label)) (args.map String.ofList)
      (String.ofList line)))
  | prose (hbare : ∀ verb, ¬IsBare line verb)
    (hpieces : ∀ label args, pieces line = label :: args → args ≠ [] → ¬IsLabel label) :
    StandsFor line none

variable {line l m : List Char}

/-! ## Its parts -/

theorem isLetter_iff {c : Char} : IsLetter c ↔ c.isAlpha = true :=
  Text.isAlpha_iff.symm

theorem isLabel_iff {cs : List Char} : IsLabel cs ↔ isName cs = true := by
  have hrest : ∀ d : Char, (IsLetter d ∨ ('0' ≤ d ∧ d ≤ '9') ∨ d = '_') ↔
      (d.isAlphanum || d == '_') = true := by
    intro d
    have hdigit : ('0' ≤ d ∧ d ≤ '9') ↔ d.isDigit = true := Text.isDigit_iff.symm
    rw [isLetter_iff, hdigit, Bool.or_eq_true, beq_iff_eq, Char.isAlphanum, Bool.or_eq_true,
      or_assoc]
  constructor
  · rintro ⟨c, cs, hc, hcs⟩
    rw [isName, isLetter_iff.mp hc, Bool.true_and, List.all_eq_true]
    exact fun d hd => (hrest d).mp (hcs d hd)
  · intro h
    cases cs with
    | nil => cases h
    | cons c cs =>
      obtain ⟨hc, hcs⟩ := Bool.and_eq_true_iff.mp h
      rw [List.all_eq_true] at hcs
      exact ⟨c, cs, isLetter_iff.mpr hc, fun d hd => (hrest d).mpr (hcs d hd)⟩

/-- The bare verb that the parser finds is the one that the line is. -/
theorem ofBareLine?_eq_some_iff {verb : Verb} :
    Verb.ofBareLine? (String.ofList line) = some verb ↔ IsBare line verb := by
  rw [IsBare, Text.sameIgnoringCase_iff]
  constructor
  · intro h
    have hfound := List.find?_some h
    obtain ⟨hbare, hname⟩ := Bool.and_eq_true_iff.mp hfound
    rw [← beq_iff_eq.mp hname]
    have hverb : verb = .undo ∨ verb = .deleteAllCharts := by
      cases verb with
      | undo => exact Or.inl rfl
      | deleteAllCharts => exact Or.inr rfl
      | _ => cases hbare
    refine ⟨hverb, ?_⟩
    rcases hverb with rfl | rfl <;> decide
  · rintro ⟨rfl | rfl, hname⟩
    · rw [Verb.ofBareLine?, hname]
      decide
    · rw [Verb.ofBareLine?, hname]
      decide

/-- One cut for each bar. -/
theorem length_splitOn (cs : List Char) (c : Char) : (cs.splitOn c).length = cs.count c + 1 := by
  induction cs using cut_induction (c := c) with
  | whole l hl => rw [List.splitOn_eq_singleton hl, List.count_eq_zero.mpr hl, List.length_singleton]
  | cut l m hl ih =>
    rw [List.splitOn_append_cons_self_of_not_mem hl, List.length_cons, ih, List.count_append,
      List.count_cons_self, List.count_eq_zero.mpr hl, Nat.zero_add]

/-! ## The parser -/

/-- A line stands for one thing only. -/
theorem StandsFor.unique {r r' : Option (List Command)} (h : StandsFor line r)
    (h' : StandsFor line r') : r = r' := by
  cases h with
  | bare verb hbare =>
    cases h' with
    | bare verb' hbare' =>
      have hverb := ofBareLine?_eq_some_iff.mpr hbare
      rw [ofBareLine?_eq_some_iff.mpr hbare', Option.some.injEq] at hverb
      rw [hverb]
    | piped _ _ hnot | prose hnot => exact absurd hbare (hnot verb)
  | piped label args hnot hpieces hargs _ hlabel =>
    cases h' with
    | bare verb hbare => exact absurd hbare (hnot verb)
    | piped label' args' _ hpieces' =>
      rw [hpieces, List.cons.injEq] at hpieces'
      rw [hpieces'.1, hpieces'.2]
    | prose _ hprose => exact absurd hlabel (hprose label args hpieces hargs)
  | prose hnot hprose =>
    cases h' with
    | bare verb hbare => exact absurd hbare (hnot verb)
    | piped label args _ hpieces hargs _ hlabel =>
      exact absurd hlabel (hprose label args hpieces hargs)
    | prose => rfl

/-- A line without a bar is a bare verb or prose. -/
theorem standsFor_of_notMem (h : '|' ∉ line) : StandsFor line (parseTrimmed? line) := by
  rw [parseTrimmed?_of_notMem h]
  cases hverb : Verb.ofBareLine? (String.ofList line) with
  | some verb => exact .bare verb (ofBareLine?_eq_some_iff.mp hverb)
  | none =>
    refine .prose (fun verb hbare => ?_) fun label args hpieces hargs => ?_
    · rw [ofBareLine?_eq_some_iff.mpr hbare] at hverb
      cases hverb
    · -- there is one piece only
      rw [pieces, List.splitOn_eq_singleton h, List.map_singleton, List.cons.injEq] at hpieces
      exact absurd hpieces.2.symm hargs

/-- A line with a bar is cut at the first one into a label and the rest. -/
theorem standsFor_append_bar (hl : '|' ∉ l) (htrimmed : Text.trimChars (l ++ '|' :: m) = l ++ '|' :: m) :
    StandsFor (l ++ '|' :: m) (parseTrimmed? (l ++ '|' :: m)) := by
  have hbare : ∀ verb, ¬IsBare (l ++ '|' :: m) verb := fun verb hbare => by
    have hnone := ofBareLine?_of_bar (List.mem_append_right l (List.mem_cons_self (a := '|') (l := m)))
    rw [ofBareLine?_eq_some_iff.mpr hbare] at hnone
    cases hnone
  -- a trimmed line has no blanks in front of its label
  have hstart : Text.trimStart l = l := by
    have h := Text.trimStart_of_trimChars htrimmed
    rw [trimStart_append_bar] at h
    exact List.append_cancel_right h
  have hpieces : pieces (l ++ '|' :: m) = Text.trimEnd l :: pieces m := by
    rw [pieces, List.splitOn_append_cons_self_of_not_mem hl, List.map_cons, Text.trimChars, hstart,
      pieces]
  have hargs : pieces m ≠ [] := by
    rw [pieces, Ne, List.map_eq_nil_iff]
    exact List.splitOn_ne_nil '|' m
  rw [parseTrimmed?_append_bar hl]
  by_cases hlabel : isName (Text.trimEnd l) = true
  · have hcount : (pieces m).length = (l ++ '|' :: m).count '|' := by
      rw [pieces, List.length_map, length_splitOn, List.count_append, List.count_cons_self,
        List.count_eq_zero.mpr hl, Nat.zero_add]
    have hmap : (pieces m).map String.ofList =
        (m.splitOn '|').map fun arg => String.ofList (Text.trimChars arg) := by
      rw [pieces, List.map_map]
      rfl
    rw [if_pos hlabel, ← hmap]
    exact .piped _ _ hbare hpieces hargs hcount (isLabel_iff.mpr hlabel)
  · rw [if_neg hlabel]
    refine .prose hbare fun label args h _ => ?_
    rw [hpieces, List.cons.injEq] at h
    rwa [← h.1, isLabel_iff]

/-- The parser gives what the line stands for once the blanks around it are gone. -/
theorem parseLine?_eq_iff (line : List Char) (r : Option (List Command)) :
    parseLine? line = r ↔ StandsFor (Text.trimChars line) r := by
  have hparsed : StandsFor (Text.trimChars line) (parseLine? line) := by
    have htrimmed := Text.trimChars_trimChars line
    rw [parseLine?]
    by_cases hbar : '|' ∈ Text.trimChars line
    · obtain ⟨l, m, hsplit, hl⟩ := List.eq_append_cons_of_mem hbar
      rw [hsplit] at htrimmed ⊢
      exact standsFor_append_bar hl htrimmed
    · exact standsFor_of_notMem hbar
  constructor
  · rintro rfl
    exact hparsed
  · exact hparsed.unique

end SheetScript.Reply
