import Mathlib.Data.List.Induction
import SheetScript.Sheet.Sort

/-!
# Sorting by insertion

What a sort by insertion does to a list, whatever the test for what has to come first. The test need
not be an order. Where it is one, the result is in order and equal elements have kept their order.

- `perm_stableSort`: sorting loses nothing.
- `map_stableSort`: elements can be sorted by their images.
- `Settles`, `pairwise_stableSort`: the result is in order. `before` holds of two elements in their order:
  of those that the test tells apart, and of the others as they stood.
- `stableSort_eq_append`: elements that precede none and are preceded by all others stay behind them.
-/

namespace SheetScript

variable {α β : Type} {precedes : α → α → Bool} {x : α} {xs ys : List α}

/-- The last element is the last one to be inserted. -/
theorem stableSort_concat (precedes : α → α → Bool) (xs : List α) (x : α) :
    stableSort precedes (xs ++ [x]) =
      (insertBack precedes x (stableSort precedes xs).reverse).reverse := by
  simp [stableSort]

/-! ## Nothing is lost -/

theorem perm_insertBack (precedes : α → α → Bool) (x : α) (ys : List α) :
    (insertBack precedes x ys).Perm (x :: ys) := by
  induction ys with
  | nil => exact List.Perm.refl _
  | cons y ys ih =>
    rw [insertBack]
    split
    · exact (ih.cons y).trans (List.Perm.swap x y ys)
    · exact List.Perm.refl _

/-- Elements are inserted one after another. -/
theorem perm_foldl_insertBack (precedes : α → α → Bool) (sorted xs : List α) :
    (xs.foldl (fun sorted x => insertBack precedes x sorted) sorted).Perm (sorted ++ xs) := by
  induction xs generalizing sorted with
  | nil => rw [List.foldl_nil, List.append_nil]
  | cons x xs ih =>
    have hinsert := (perm_insertBack precedes x sorted).append_right xs
    exact (ih _).trans (hinsert.trans List.perm_middle.symm)

/-- Sorting puts the elements of a list into another order. -/
theorem perm_stableSort (precedes : α → α → Bool) (xs : List α) :
    (stableSort precedes xs).Perm xs :=
  (List.reverse_perm _).trans (perm_foldl_insertBack precedes [] xs)

/-! ## Sorting by images -/

theorem map_insertBack (f : β → α) (precedes : α → α → Bool) (x : β) (ys : List β) :
    (insertBack (fun a b => precedes (f a) (f b)) x ys).map f =
      insertBack precedes (f x) (ys.map f) := by
  induction ys with
  | nil => rfl
  | cons y ys ih =>
    rw [List.map_cons, insertBack, insertBack]
    split
    · rw [List.map_cons, ih]
    · rfl

/-- Elements can be sorted by their images. -/
theorem map_stableSort (f : β → α) (precedes : α → α → Bool) (xs : List β) :
    (stableSort (fun a b => precedes (f a) (f b)) xs).map f = stableSort precedes (xs.map f) := by
  induction xs using List.reverseRecOn with
  | nil => rfl
  | append_singleton xs x ih =>
    rw [List.map_append, List.map_singleton, stableSort_concat, stableSort_concat, List.map_reverse,
      map_insertBack, List.map_reverse, ih]

/-! ## The result is in order -/

/-- An element is inserted into a list that is sorted backwards. -/
theorem pairwise_insertBack {before : α → α → Prop} (hys : ys.Pairwise fun y z => before z y)
    (htrans : ∀ y ∈ ys, ∀ z ∈ ys, before z y → before y x → before z x)
    (hpast : ∀ y ∈ ys, precedes x y = true → before x y)
    (hstop : ∀ y ∈ ys, precedes x y = false → before y x) :
    (insertBack precedes x ys).Pairwise fun y z => before z y := by
  induction ys with
  | nil => exact List.pairwise_singleton _ _
  | cons y ys ih =>
    rw [List.pairwise_cons] at hys
    have hrest : ∀ {z}, z ∈ ys → z ∈ y :: ys := List.mem_cons_of_mem y
    rw [insertBack]
    split
    next hpre =>
      have ih := ih hys.2 (fun z hz u hu => htrans z (hrest hz) u (hrest hu))
        (fun z hz => hpast z (hrest hz)) (fun z hz => hstop z (hrest hz))
      refine List.pairwise_cons.mpr ⟨fun z hz => ?_, ih⟩
      rcases List.mem_cons.mp ((perm_insertBack precedes x ys).subset hz) with rfl | hz
      · exact hpast y List.mem_cons_self hpre
      · exact hys.1 z hz
    next hpre =>
      -- what stands before `y` stands before `x` too
      have hxy : before y x := hstop y List.mem_cons_self (by simpa using hpre)
      refine List.pairwise_cons.mpr ⟨fun z hz => ?_, List.pairwise_cons.mpr hys⟩
      rcases List.mem_cons.mp hz with rfl | hz'
      · exact hxy
      · exact htrans y List.mem_cons_self z hz (hys.1 z hz') hxy

/-- Whether comparing an element with one that stood in front of it tells which of them goes first. -/
structure Settles (precedes : α → α → Bool) (before : α → α → Prop) (x y : α) : Prop where
  swaps : precedes y x = true → before y x
  keeps : precedes y x = false → before x y

/-- Elements are inserted one after another into a list that is sorted backwards. -/
theorem pairwise_foldl_insertBack {before : α → α → Prop} {sorted : List α}
    (htrans : ∀ x ∈ sorted ++ xs, ∀ y ∈ sorted ++ xs, ∀ z ∈ sorted ++ xs,
      before x y → before y z → before x z)
    (hsorted : sorted.Pairwise fun y z => before z y)
    (hcross : ∀ y ∈ sorted, ∀ x ∈ xs, Settles precedes before y x)
    (hxs : xs.Pairwise (Settles precedes before)) :
    (xs.foldl (fun sorted x => insertBack precedes x sorted) sorted).Pairwise
      fun y z => before z y := by
  induction xs generalizing sorted with
  | nil => exact hsorted
  | cons x xs ih =>
    rw [List.pairwise_cons] at hxs
    have hperm := perm_insertBack precedes x sorted
    have hmem : ∀ {y}, y ∈ insertBack precedes x sorted ++ xs → y ∈ sorted ++ x :: xs := fun hy =>
      List.perm_middle.symm.subset ((hperm.append_right xs).subset hy)
    have hinit : ∀ {y}, y ∈ sorted → y ∈ sorted ++ x :: xs := List.mem_append_left _
    have hx : ∀ y ∈ sorted, Settles precedes before y x := fun y hy =>
      hcross y hy x List.mem_cons_self
    refine ih (fun y hy z hz u hu => htrans y (hmem hy) z (hmem hz) u (hmem hu)) ?_ ?_ hxs.2
    · exact pairwise_insertBack hsorted
        (fun y hy z hz => htrans z (hinit hz) y (hinit hy) x (List.mem_append_right _ List.mem_cons_self))
        (fun y hy => (hx y hy).swaps) (fun y hy => (hx y hy).keeps)
    · intro y hy x' hx'
      rcases List.mem_cons.mp (hperm.subset hy) with rfl | hy
      · exact hxs.1 x' hx'
      · exact hcross y hy x' (List.mem_cons_of_mem _ hx')

/-- The result of a sort is in order. -/
theorem pairwise_stableSort {before : α → α → Prop}
    (htrans : ∀ x ∈ xs, ∀ y ∈ xs, ∀ z ∈ xs, before x y → before y z → before x z)
    (h : xs.Pairwise (Settles precedes before)) : (stableSort precedes xs).Pairwise before :=
  List.pairwise_reverse.mpr
    (pairwise_foldl_insertBack htrans List.Pairwise.nil (fun _ hy => nomatch hy) h)

/-! ## Elements that stay behind -/

theorem insertBack_append (zs : List α) (h : ∀ y ∈ ys, precedes x y = true) :
    insertBack precedes x (ys ++ zs) = ys ++ insertBack precedes x zs := by
  induction ys with
  | nil => rfl
  | cons y ys ih =>
    rw [List.forall_mem_cons] at h
    rw [List.cons_append, insertBack, if_pos h.1, ih h.2, List.cons_append]

theorem insertBack_of_forall (h : ∀ y, precedes x y = false) :
    insertBack precedes x ys = x :: ys := by
  cases ys with
  | nil => rfl
  | cons y ys => rw [insertBack, h y, if_neg Bool.false_ne_true]

/-- Elements that precede none and are preceded by all others stand behind the sorted others, as they
stood. -/
theorem stableSort_eq_append {ahead : α → Bool}
    (hahead : ∀ x y, ahead x = true → ahead y = false → precedes x y = true)
    (hbehind : ∀ x y, ahead x = false → precedes x y = false) (xs : List α) :
    stableSort precedes xs =
      stableSort precedes (xs.filter ahead) ++ xs.filter fun x => !ahead x := by
  induction xs using List.reverseRecOn with
  | nil => rfl
  | append_singleton xs x ih =>
    have hrest : ∀ {y}, y ∈ (xs.filter fun x => !ahead x).reverse → ahead y = false := fun hy => by
      simpa using (List.mem_filter.mp (List.mem_reverse.mp hy)).2
    rw [stableSort_concat, ih, List.reverse_append, List.filter_append, List.filter_append]
    cases hx : ahead x with
    | true =>
      rw [insertBack_append _ fun y hy => hahead x y hx (hrest hy)]
      simp [hx, stableSort_concat]
    | false =>
      rw [insertBack_of_forall fun y => hbehind x y hx]
      simp [hx]

end SheetScript
