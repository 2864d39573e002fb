import SheetScript.Text.Word

/-!
# Fenced code

Replies often put their commands into fenced code blocks. The two fences, the tag after the first one
and one line end after the tag are dropped; what stands between is kept. A fence without a partner
stays as it is.

- `cutAtFence`: what stands before the first fence, and what stands behind it.
- `stripFences`: a text without the fences of its code blocks.
-/

namespace SheetScript.Reply

/-- Three backquotes in a row. -/
def fence : List Char :=
  List.replicate 3 (Char.ofNat 96)

/-- What stands before the first fence of a text, and what stands behind it. -/
def cutAtFence (cs : List Char) : Option (List Char × List Char) :=
  if fence.isPrefixOf cs then some ([], cs.drop fence.length)
  else
    match cs with
    | [] => none
    | c :: rest => (cutAtFence rest).map fun (before, after) => (c :: before, after)

/-- Cutting loses nothing but the fence. -/
theorem eq_append_of_cutAtFence {cs before after : List Char}
    (h : cutAtFence cs = some (before, after)) : cs = before ++ fence ++ after := by
  induction cs generalizing before with
  | nil => simp [cutAtFence, fence] at h
  | cons c rest ih =>
    rw [cutAtFence] at h
    split at h
    · next hfence =>
      obtain ⟨tail, htail⟩ := List.isPrefixOf_iff_prefix.mp hfence
      rw [← htail, List.drop_left, Option.some.injEq, Prod.mk.injEq] at h
      obtain ⟨rfl, rfl⟩ := h
      exact htail.symm
    · simp only [Option.map_eq_some_iff, Prod.exists, Prod.mk.injEq] at h
      obtain ⟨init, tail, hrest, rfl, rfl⟩ := h
      rw [ih hrest]
      simp

theorem length_lt_of_cutAtFence {cs before after : List Char}
    (h : cutAtFence cs = some (before, after)) : after.length < cs.length := by
  rw [eq_append_of_cutAtFence h]
  simp only [List.length_append, fence, List.length_replicate]
  omega

/-- What follows the tag of an opening fence: word characters are skipped, then one line end. -/
def dropTag (cs : List Char) : List Char :=
  match cs.dropWhile Text.isWord with
  | '\n' :: rest => rest
  | rest => rest

theorem length_dropTag_le (cs : List Char) : (dropTag cs).length ≤ cs.length := by
  have hdrop : (cs.dropWhile Text.isWord).length ≤ cs.length :=
    (List.dropWhile_suffix _).length_le
  unfold dropTag
  split
  · next rest h =>
    rw [h] at hdrop
    exact Nat.le_of_succ_le hdrop
  · exact hdrop

/-- A text without the fences of its code blocks. -/
def stripFences (cs : List Char) : List Char :=
  match hopen : cutAtFence cs with
  | none => cs
  | some (before, opened) =>
    match hclose : cutAtFence (dropTag opened) with
    | none => cs
    | some (inside, after) =>
      have : after.length < cs.length := by
        have h1 := length_lt_of_cutAtFence hopen
        have h2 := length_lt_of_cutAtFence hclose
        have h3 := length_dropTag_le opened
        omega
      before ++ inside ++ stripFences after
termination_by cs.length

end SheetScript.Reply
