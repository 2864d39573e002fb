import Mathlib
import SheetScript.Proofs.Notation
import SheetScript.Reply.Fence

/-!
# Counting fences

Fences are taken out of a text in pairs. How many there are is counted from the left, so a run of
backquotes has one for every three of them. No other character is part of a fence, and so the count of
a text is the sum of the counts of its pieces, wherever it is cut at such a character.

- `fenceCount`: the number of fences; `fenceCount_append_cons`, `fenceCount_intercalate` add them up.
- `fenceCount_trimChars`: blanks do not count.
- `fenceCount_stripFences`: at most one fence is left when the pairs are gone.
- `stripFences_eq_self`: a text with at most one fence is left as it is, so stripping again changes
  nothing (`stripFences_stripFences`).
-/

namespace SheetScript.Reply

/-- What fences are made of. -/
def backquote : Char := Char.ofNat 96

/-- How many fences there are in a text, counted from the left. -/
def fenceCount (cs : List Char) : Nat :=
  match h : cutAtFence cs with
  | none => 0
  | some (_, after) =>
    have := length_lt_of_cutAtFence h
    fenceCount after + 1
termination_by cs.length

variable {cs before after : List Char} {c : Char}

theorem fenceCount_of_none (h : cutAtFence cs = none) : fenceCount cs = 0 := by
  rw [fenceCount]
  split
  next => rfl
  next hsome => simp [h] at hsome

/-- Cutting a text at its first fence leaves one fence less behind it. -/
theorem fenceCount_of_some (h : cutAtFence cs = some (before, after)) :
    fenceCount cs = fenceCount after + 1 := by
  rw [fenceCount]
  split
  next hnone => simp [h] at hnone
  next hsome =>
    rw [h] at hsome
    cases hsome
    rfl

theorem fenceCount_eq_zero_iff : fenceCount cs = 0 ↔ cutAtFence cs = none := by
  refine ⟨fun h => ?_, fenceCount_of_none⟩
  rcases hcut : cutAtFence cs with _ | ⟨before, after⟩
  · rfl
  · rw [fenceCount_of_some hcut] at h
    cases h

@[simp] theorem fenceCount_nil : fenceCount [] = 0 :=
  fenceCount_of_none rfl

/-! ## Cutting at another character -/

/-- A fence does not go on past a character that is no backquote. -/
theorem isPrefixOf_fence_append_cons (hc : c ≠ backquote) (l m : List Char) :
    fence.isPrefixOf (l ++ c :: m) = fence.isPrefixOf l := by
  have hc' : (Char.ofNat 96 == c) = false := beq_false_of_ne (Ne.symm hc)
  match l with
  | [] | [_] | [_, _] => simp [fence, List.replicate, List.isPrefixOf, hc']
  | _ :: _ :: _ :: _ => simp [fence, List.replicate, List.isPrefixOf]

theorem cutAtFence_of_isPrefixOf (h : fence.isPrefixOf cs = true) :
    cutAtFence cs = some ([], cs.drop fence.length) := by
  rw [cutAtFence.eq_def, if_pos h]

/-- A text that does not start with a fence is cut behind its first character. -/
theorem cutAtFence_cons (h : fence.isPrefixOf (c :: cs) = false) :
    cutAtFence (c :: cs) = (cutAtFence cs).map fun (before, after) => (c :: before, after) := by
  rw [cutAtFence, if_neg (by simp [h])]

/-- A fence that is found in the first part of a text is found in the text. -/
theorem cutAtFence_append_of_some {l : List Char} (hc : c ≠ backquote) (m : List Char)
    (h : cutAtFence l = some (before, after)) :
    cutAtFence (l ++ c :: m) = some (before, after ++ c :: m) := by
  induction l generalizing before with
  | nil => simp [cutAtFence, fence] at h
  | cons d l ih =>
    have hsame := isPrefixOf_fence_append_cons hc (d :: l) m
    cases hfence : fence.isPrefixOf (d :: l) with
    | true =>
      rw [cutAtFence_of_isPrefixOf hfence] at h
      cases h
      have hle := (List.isPrefixOf_iff_prefix.mp hfence).length_le
      rw [cutAtFence_of_isPrefixOf (hsame.trans hfence), List.drop_append_of_le_length hle]
    | false =>
      rw [cutAtFence_cons hfence, Option.map_eq_some_iff] at h
      obtain ⟨⟨before', _⟩, hrest, heq⟩ := h
      cases heq
      rw [List.cons_append] at hsame ⊢
      rw [cutAtFence_cons (hsame.trans hfence), ih hrest]
      rfl

/-- If there is none in the first part, the first fence of the rest is found. -/
theorem cutAtFence_append_of_none {l : List Char} (hc : c ≠ backquote) (m : List Char)
    (h : cutAtFence l = none) :
    cutAtFence (l ++ c :: m) =
      (cutAtFence m).map fun (before, after) => (l ++ c :: before, after) := by
  induction l with
  | nil =>
    have hfence : fence.isPrefixOf (c :: m) = false := isPrefixOf_fence_append_cons hc [] m
    rw [List.nil_append, cutAtFence_cons hfence]
    rfl
  | cons d l ih =>
    have hsame := isPrefixOf_fence_append_cons hc (d :: l) m
    cases hfence : fence.isPrefixOf (d :: l) with
    | true =>
      rw [cutAtFence_of_isPrefixOf hfence] at h
      cases h
    | false =>
      rw [cutAtFence_cons hfence, Option.map_eq_none_iff] at h
      rw [List.cons_append] at hsame ⊢
      rw [cutAtFence_cons (hsame.trans hfence), ih h, Option.map_map]
      rfl

/-- A text that is cut at another character has the fences of both parts. -/
theorem fenceCount_append_cons (hc : c ≠ backquote) (l m : List Char) :
    fenceCount (l ++ c :: m) = fenceCount l + fenceCount m := by
  -- along the fences of the first part; when it has none left, the next one is in the second part
  induction hn : l.length using Nat.strong_induction_on generalizing l with
  | _ n ih =>
    rcases hl : cutAtFence l with _ | ⟨before, after⟩
    · rw [fenceCount_of_none hl, Nat.zero_add]
      have hcut := cutAtFence_append_of_none hc m hl
      rcases hm : cutAtFence m with _ | ⟨before, after⟩
      · rw [hm] at hcut
        rw [fenceCount_of_none hcut, fenceCount_of_none hm]
      · rw [hm] at hcut
        rw [fenceCount_of_some hcut, fenceCount_of_some hm]
    · have hlt := length_lt_of_cutAtFence hl
      rw [fenceCount_of_some (cutAtFence_append_of_some hc m hl), fenceCount_of_some hl,
        ih after.length (by omega) after rfl]
      omega

/-- Text without backquotes in front brings no fence. -/
theorem fenceCount_append_of_forall {l : List Char} (h : ∀ d ∈ l, d ≠ backquote) (m : List Char) :
    fenceCount (l ++ m) = fenceCount m := by
  induction l with
  | nil => rfl
  | cons d l ih =>
    rw [List.forall_mem_cons] at h
    rw [List.cons_append, ← List.nil_append (d :: _), fenceCount_append_cons h.1, fenceCount_nil,
      Nat.zero_add, ih h.2]

theorem fenceCount_of_forall (h : ∀ d ∈ cs, d ≠ backquote) : fenceCount cs = 0 := by
  rw [← List.append_nil cs, fenceCount_append_of_forall h, fenceCount_nil]

/-- Nor does text without backquotes behind. -/
theorem fenceCount_append_forall {m : List Char} (h : ∀ d ∈ m, d ≠ backquote) (l : List Char) :
    fenceCount (l ++ m) = fenceCount l := by
  cases m with
  | nil => rw [List.append_nil]
  | cons d m =>
    rw [List.forall_mem_cons] at h
    rw [fenceCount_append_cons h.1, fenceCount_of_forall h.2, Nat.add_zero]

/-- The fences of a text are those of its pieces. -/
theorem fenceCount_intercalate (hc : c ≠ backquote) (pieces : List (List Char)) :
    fenceCount ([c].intercalate pieces) = (pieces.map fenceCount).sum := by
  induction pieces with
  | nil => simp
  | cons piece pieces ih =>
    cases pieces with
    | nil => simp
    | cons next pieces =>
      rw [List.intercalate_cons_cons, List.append_assoc, List.singleton_append,
        fenceCount_append_cons hc, ih, List.map_cons (l := next :: pieces), List.sum_cons]

/-- The fences of a text are those of its pieces. -/
theorem sum_fenceCount_splitOn (hc : c ≠ backquote) (cs : List Char) :
    ((cs.splitOn c).map fenceCount).sum = fenceCount cs := by
  rw [← fenceCount_intercalate hc, List.intercalate_splitOn]

/-- A backquote is no blank. -/
theorem ne_backquote_of_isBlank (h : Text.isBlank c = true) : c ≠ backquote := by
  rintro rfl
  exact absurd h (by decide)

/-- Blanks at the ends of a text have no part in its fences. -/
theorem fenceCount_trimChars (cs : List Char) : fenceCount (Text.trimChars cs) = fenceCount cs := by
  obtain ⟨p, q, hp, hq, hsplit⟩ := Text.exists_blanks_trimChars cs
  conv_rhs => rw [hsplit]
  rw [fenceCount_append_of_forall fun d hd => ne_backquote_of_isBlank (hp d hd),
    fenceCount_append_forall fun d hd => ne_backquote_of_isBlank (hq d hd)]

/-! ## Stripping -/

/-- Nothing that stands before the first fence of a text is part of a fence. -/
theorem cutAtFence_before (h : cutAtFence cs = some (before, after)) :
    cutAtFence before = none ∧ ∀ d, before.getLast? = some d → d ≠ backquote := by
  induction cs generalizing before with
  | nil => simp [cutAtFence, fence] at h
  | cons c cs ih =>
    cases hfence : fence.isPrefixOf (c :: cs) with
    | true =>
      rw [cutAtFence_of_isPrefixOf hfence] at h
      cases h
      exact ⟨rfl, by simp⟩
    | false =>
      rw [cutAtFence_cons hfence, Option.map_eq_some_iff] at h
      obtain ⟨⟨before', after'⟩, hrest, heq⟩ := h
      cases heq
      obtain ⟨hnone, hlast⟩ := ih hrest
      have hcs := eq_append_of_cutAtFence hrest
      refine ⟨?_, ?_⟩
      · -- a fence at the head of the part before would be one at the head of the text
        have hhead : fence.isPrefixOf (c :: before') = false := by
          by_contra hhead
          rw [Bool.not_eq_false, List.isPrefixOf_iff_prefix] at hhead
          have hpre : fence <+: c :: cs := by
            rw [hcs, List.append_assoc]
            exact hhead.trans (List.prefix_append (c :: before') (fence ++ after))
          rw [List.isPrefixOf_iff_prefix.mpr hpre] at hfence
          cases hfence
        rw [cutAtFence_cons hhead, hnone]
        rfl
      · cases before' with
        | nil =>
          rintro d hd rfl
          simp only [List.getLast?_singleton, Option.some.injEq] at hd
          subst hd
          -- a backquote right before a fence would start a fence itself
          rw [hcs] at hfence
          simp [fence, List.replicate, List.isPrefixOf, backquote] at hfence
        | cons e before' =>
          rw [List.getLast?_cons_of_ne_nil (by simp)]
          exact hlast

/-- Before the first fence there is none, whatever follows. -/
theorem fenceCount_before_append (h : cutAtFence cs = some (before, after)) (m : List Char) :
    fenceCount (before ++ m) = fenceCount m := by
  obtain ⟨hnone, hlast⟩ := cutAtFence_before h
  rcases List.eq_nil_or_concat' before with rfl | ⟨init, d, rfl⟩
  · rfl
  · have hd : d ≠ backquote := hlast d (by simp)
    have hinit := fenceCount_append_cons hd init []
    rw [fenceCount_of_none hnone, fenceCount_nil] at hinit
    rw [List.append_assoc, List.singleton_append, fenceCount_append_cons hd]
    omega

/-- The tag after a fence has no part in other fences. -/
theorem fenceCount_dropTag (cs : List Char) : fenceCount (dropTag cs) = fenceCount cs := by
  have hword : ∀ d ∈ cs.takeWhile Text.isWord, d ≠ backquote := by
    rintro d hd rfl
    have hd := List.mem_takeWhile_imp hd
    rw [backquote, Text.isWord_backquote] at hd
    cases hd
  have hcs : fenceCount cs = fenceCount (cs.dropWhile Text.isWord) := by
    conv_lhs => rw [← List.takeWhile_append_dropWhile (p := Text.isWord) (l := cs)]
    rw [fenceCount_append_of_forall hword]
  rw [hcs, dropTag]
  split
  next rest hrest =>
    rw [hrest]
    have hnewline : ∀ d ∈ ['\n'], d ≠ backquote := List.forall_mem_singleton.mpr (by decide)
    exact (fenceCount_append_of_forall hnewline rest).symm
  next => rfl

/-- A text with at most one fence is left as it is. -/
theorem stripFences_eq_self (h : fenceCount cs ≤ 1) : stripFences cs = cs := by
  rw [stripFences]
  split
  next => rfl
  next before opened hopen =>
    -- the only fence has no partner
    have hclose : cutAtFence (dropTag opened) = none := by
      rw [fenceCount_of_some hopen] at h
      rw [← fenceCount_eq_zero_iff, fenceCount_dropTag]
      omega
    split
    next => rfl
    next hsome =>
      rw [hclose] at hsome
      cases hsome

/-- At most one fence is left when the pairs are gone. -/
theorem fenceCount_stripFences (cs : List Char) : fenceCount (stripFences cs) ≤ 1 := by
  fun_induction stripFences cs with
  | case1 cs hopen =>
    rw [fenceCount_of_none hopen]
    exact Nat.zero_le 1
  | case2 cs before opened hopen hclose =>
    rw [fenceCount_of_some hopen, ← fenceCount_dropTag, fenceCount_of_none hclose]
  | case3 cs before opened hopen inside after hclose _ ih =>
    -- the kept parts end in no backquote, so joining them makes no new fence
    rw [List.append_assoc, fenceCount_before_append hopen, fenceCount_before_append hclose]
    exact ih

/-- A text without pairs of fences is not changed any more. -/
theorem stripFences_stripFences (cs : List Char) :
    stripFences (stripFences cs) = stripFences cs :=
  stripFences_eq_self (fenceCount_stripFences cs)

end SheetScript.Reply
