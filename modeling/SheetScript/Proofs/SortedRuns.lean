import SheetScript.Proofs.DriftSort

/-!
# What a sort of a long list comes to

Where the test that a list is sorted by is an order, the sort of a long list always has a result, and it is
that of a sort by insertion: the elements are in order, and those that are level have kept theirs. All parts
of the sort compare an element with one that stood in front of it, and that settles which of them goes
first. So each part is shown to put its elements in front of each other as they belong.

- `Arranges`: an order in which no element is preceded by a later one; `Stood`, `Leads`: the order of the
  elements to start with, and the one they belong in.
- `exists_mergeHalves`: the ends of a merge meet, since an element on both sides would have to go before and
  behind another one.
- `exists_smallSort`, `exists_cutRuns`, `exists_joinAll`, `exists_quicksort`: the parts of the sort.
- `driftSort_eq_stableSort`: the sort.
-/

namespace SheetScript

variable {α : Type} {precedes : α → α → Bool} {before stood : α → α → Prop}

/-- The same comparison settles it where lists are read from the back. -/
theorem Settles.flip {x y : α} (h : Settles precedes before x y) :
    Settles (fun a b => precedes b a) (fun a b => before b a) y x :=
  ⟨h.swaps, h.keeps⟩

/-- Whether elements have an order in which none is preceded by a later one. -/
structure Arranges (precedes : α → α → Bool) (before : α → α → Prop) : Prop where
  trans : ∀ ⦃x y z⦄, before x y → before y z → before x z
  irrefl : ∀ ⦃x⦄, ¬before x x
  not_precedes : ∀ {x y}, before x y → precedes y x = false

/-- Elements that are in order are left so by a comparison. -/
theorem Arranges.settles (h : Arranges precedes before) {x y : α} (hxy : before x y) :
    Settles precedes before x y := by
  constructor
  · intro hyx
    rw [h.not_precedes hxy] at hyx
    cases hyx
  · intro _
    exact hxy

/-- The result of a sort by insertion is in order. -/
theorem Arranges.pairwise_stableSort (h : Arranges precedes before) {xs : List α}
    (hxs : xs.Pairwise (Settles precedes before)) : (stableSort precedes xs).Pairwise before :=
  SheetScript.pairwise_stableSort (fun _ _ _ _ _ _ hxy hyz => h.trans hxy hyz) hxs

namespace DriftSort

variable {xs ys left right : List α}

section

variable (harranges : Arranges precedes before)
include harranges

/-! ## Short pieces -/

/-- Between two elements the two others are put in order. -/
theorem pairwise_between {low high x y : α} (hxy : Settles precedes before x y)
    (hlowx : before low x) (hlowy : before low y) (hxhigh : before x high) (hyhigh : before y high) :
    (low :: sortFour.pair precedes x y ++ [high]).Pairwise before := by
  have hlow := harranges.trans hlowx hxhigh
  rw [sortFour.pair]
  split
  next hpre => simp [hlowx, hlowy, hxhigh, hyhigh, hlow, hxy.swaps hpre]
  next hpre => simp [hlowx, hlowy, hxhigh, hyhigh, hlow, hxy.keeps (by simpa using hpre)]

/-- Two pairs in order are put together. -/
theorem pairwise_sortFour_of_pairs {a b c d : α} (hab : before a b) (hcd : before c d)
    (hac : Settles precedes before a c) (had : Settles precedes before a d)
    (hbc : Settles precedes before b c) (hbd : Settles precedes before b d) :
    (sortFour precedes a b c d).Pairwise before := by
  rw [sortFour, harranges.not_precedes hab, harranges.not_precedes hcd]
  simp only [Bool.false_eq_true, if_false]
  cases hca : precedes c a <;> cases hdb : precedes d b <;> dsimp only
  · exact pairwise_between harranges hbc hab (hac.keeps hca) (hbd.keeps hdb) hcd
  · have hac := hac.keeps hca
    have hdb := hbd.swaps hdb
    exact pairwise_between harranges (harranges.settles hcd) hac (harranges.trans hac hcd)
      (harranges.trans hcd hdb) hdb
  · have hca := hac.swaps hca
    exact pairwise_between harranges (harranges.settles hab) hca (harranges.trans hca hab)
      (harranges.trans hab (hbd.keeps hdb)) (hbd.keeps hdb)
  · exact pairwise_between harranges had (hac.swaps hca) hcd hab (hbd.swaps hdb)

/-- Four elements are sorted. The first two comparisons put each pair in order. -/
theorem pairwise_sortFour {a b c d : α} (h : [a, b, c, d].Pairwise (Settles precedes before)) :
    (sortFour precedes a b c d).Pairwise before := by
  simp only [List.pairwise_cons, List.mem_cons, List.not_mem_nil, or_false, forall_eq_or_imp,
    forall_eq] at h
  obtain ⟨⟨hab, hac, had⟩, ⟨hbc, hbd⟩, hcd, -⟩ := h
  have hleft : precedes b a = true → sortFour precedes a b c d = sortFour precedes b a c d := by
    intro hba
    rw [sortFour, sortFour, hba, harranges.not_precedes (hab.swaps hba)]
    rfl
  have hright : ∀ {x y}, precedes d c = true →
      sortFour precedes x y c d = sortFour precedes x y d c := by
    intro x y hdc
    rw [sortFour, sortFour, hdc, harranges.not_precedes (hcd.swaps hdc)]
    rfl
  cases hba : precedes b a <;> cases hdc : precedes d c
  · exact pairwise_sortFour_of_pairs harranges (hab.keeps hba) (hcd.keeps hdc) hac had hbc hbd
  · rw [hright hdc]
    exact pairwise_sortFour_of_pairs harranges (hab.keeps hba) (hcd.swaps hdc) had hac hbd hbc
  · rw [hleft hba]
    exact pairwise_sortFour_of_pairs harranges (hab.swaps hba) (hcd.keeps hdc) hbc hbd hac had
  · rw [hleft hba, hright hdc]
    exact pairwise_sortFour_of_pairs harranges (hab.swaps hba) (hcd.swaps hdc) hbd hbc had hac

/-- A half is sorted. -/
theorem pairwise_sortHalf {many : Bool} (h : xs.Pairwise (Settles precedes before)) :
    (sortHalf precedes many xs).Pairwise before := by
  rw [sortHalf.eq_def]
  split
  next a b c d rest =>
    cases many with
    | false => exact harranges.pairwise_stableSort h
    | true =>
      obtain ⟨hfour, hrest, hcross⟩ :=
        List.pairwise_append.mp (show ([a, b, c, d] ++ rest).Pairwise _ from h)
      refine List.pairwise_reverse.mpr (pairwise_foldl_insertBack
        (fun _ _ _ _ _ _ hxy hyz => harranges.trans hxy hyz)
        (List.pairwise_reverse.mpr (pairwise_sortFour harranges hfour)) ?_ hrest)
      intro y hy
      exact hcross y ((perm_sortFour precedes a b c d).subset (List.mem_reverse.mp hy))
  next => exact harranges.pairwise_stableSort h

end

/-! ## Merges -/

/-- What is taken from the front of two lists and what is left are the two lists. -/
theorem perm_mergeFront (precedes : α → α → Bool) (n : Nat) (xs ys : List α) :
    ((mergeFront precedes n xs ys).1 ++
      ((mergeFront precedes n xs ys).2.1 ++ (mergeFront precedes n xs ys).2.2)).Perm (xs ++ ys) := by
  fun_induction mergeFront precedes n xs ys with
  | case1 n x xs y ys hpre taken rest h ih =>
    rw [h] at ih
    exact (ih.cons y).trans List.perm_middle.symm
  | case2 n x xs y ys hpre taken rest h ih =>
    rw [h] at ih
    exact ih.cons x
  | case3 => exact .refl _

/-- An element that goes first is taken first. -/
theorem ahead_cons {a : α} {all taken rest : List α} (hall : ∀ b ∈ all, before a b)
    (hperm : (taken ++ rest).Perm all)
    (htaken : taken.Pairwise before ∧ ∀ a ∈ taken, ∀ b ∈ rest, before a b) :
    (a :: taken).Pairwise before ∧ ∀ a' ∈ a :: taken, ∀ b ∈ rest, before a' b := by
  constructor
  · refine List.pairwise_cons.mpr ⟨?_, htaken.1⟩
    intro b hb
    exact hall b (hperm.subset (List.mem_append_left _ hb))
  · refine List.forall_mem_cons.mpr ⟨?_, htaken.2⟩
    intro b hb
    exact hall b (hperm.subset (List.mem_append_right _ hb))

/-- What is taken from the front of two sorted lists is sorted and goes in front of all that is left. -/
theorem before_mergeFront (precedes : α → α → Bool) (before : α → α → Prop)
    (htrans : ∀ ⦃x y z⦄, before x y → before y z → before x z)
    (n : Nat) (hxs : xs.Pairwise before) (hys : ys.Pairwise before)
    (hcross : ∀ x ∈ xs, ∀ y ∈ ys, Settles precedes before x y) :
    (mergeFront precedes n xs ys).1.Pairwise before ∧
      ∀ a ∈ (mergeFront precedes n xs ys).1,
        ∀ b ∈ (mergeFront precedes n xs ys).2.1 ++ (mergeFront precedes n xs ys).2.2, before a b := by
  fun_induction mergeFront precedes n xs ys with
  | case1 n x xs y ys hpre taken rest h ih =>
    have hperm := perm_mergeFront precedes n (x :: xs) ys
    rw [h] at hperm ih
    have hyx := (hcross x List.mem_cons_self y List.mem_cons_self).swaps hpre
    refine ahead_cons ?_ hperm
      (ih hxs hys.of_cons fun a ha b hb => hcross a ha b (List.mem_cons_of_mem _ hb))
    intro b hb
    rcases List.mem_append.mp hb with hb | hb
    · rcases List.mem_cons.mp hb with rfl | hb
      · exact hyx
      · exact htrans hyx (List.rel_of_pairwise_cons hxs hb)
    · exact List.rel_of_pairwise_cons hys hb
  | case2 n x xs y ys hpre taken rest h ih =>
    have hperm := perm_mergeFront precedes n xs (y :: ys)
    rw [h] at hperm ih
    have hxy := (hcross x List.mem_cons_self y List.mem_cons_self).keeps (by simpa using hpre)
    refine ahead_cons ?_ hperm
      (ih hxs.of_cons hys fun a ha b hb => hcross a (List.mem_cons_of_mem _ ha) b hb)
    intro b hb
    rcases List.mem_append.mp hb with hb | hb
    · exact List.rel_of_pairwise_cons hxs hb
    · rcases List.mem_cons.mp hb with rfl | hb
      · exact hxy
      · exact htrans hxy (List.rel_of_pairwise_cons hys hb)
  | case3 => exact ⟨List.Pairwise.nil, fun _ ha => nomatch ha⟩

/-- Places where two lists are cut do not overlap. If they did in the one list, an element between them
would be on both sides of one of the other list. -/
theorem le_of_meet (htrans : ∀ ⦃x y z⦄, before x y → before y z → before x z)
    (hirrefl : ∀ ⦃x⦄, ¬before x x) {i i' j j' : Nat} (hcount : i + j ≤ i' + j')
    (hi : i ≤ xs.length) (hj' : j' ≤ ys.length)
    (hfront : ∀ x ∈ xs.take i, ∀ y ∈ ys.drop j, before x y)
    (hback : ∀ y ∈ ys.take j', ∀ x ∈ xs.drop i', before y x) : i ≤ i' := by
  by_contra hlt
  have hx : i' < xs.length := by omega
  have hy : j < ys.length := by omega
  have hfront := hfront xs[i'] (List.mem_take_iff_getElem.mpr ⟨i', by omega, rfl⟩) ys[j]
    (List.mem_drop_iff_getElem.mpr ⟨0, by omega, rfl⟩)
  have hback := hback ys[j] (List.mem_take_iff_getElem.mpr ⟨j, by omega, rfl⟩) xs[i']
    (List.mem_drop_iff_getElem.mpr ⟨0, by omega, rfl⟩)
  exact hirrefl (htrans hfront hback)

theorem pairwise_of_length_lt_two {R : α → α → Prop} (h : xs.length < 2) : xs.Pairwise R := by
  match xs, h with
  | [], _ => exact List.Pairwise.nil
  | [x], _ => exact List.pairwise_singleton R x

section

variable {front back : List α} {i j i' j' : Nat}

/-- In front are elements from the fronts of both halves. -/
theorem Ends.mem_front (h : Ends precedes left right front back i j i' j') {x : α} :
    x ∈ front ↔ x ∈ left.take i ∨ x ∈ right.take j := by
  rw [h.perm_front.mem_iff, List.mem_append]

/-- Behind are elements from their backs. -/
theorem Ends.mem_back (h : Ends precedes left right front back i j i' j') {x : α} :
    x ∈ back ↔ x ∈ left.drop i' ∨ x ∈ right.drop j' := by
  rw [← List.mem_reverse, h.perm_back.mem_iff, List.mem_append]

variable (hends : Ends precedes left right front back i j i' j') (hlength : left.length ≤ right.length)
  (hahead : ∀ a ∈ front, ∀ b, b ∈ left.drop i ∨ b ∈ right.drop j → before a b)
  (hbehind : ∀ a ∈ back, ∀ b, b ∈ left.take i' ∨ b ∈ right.take j' → before b a)
include hends hlength hahead hbehind

/-- If what is in front goes ahead of all others, and what is behind goes after all others, the ends
meet. -/
theorem Ends.meet (htrans : ∀ ⦃x y z⦄, before x y → before y z → before x z)
    (hirrefl : ∀ ⦃x⦄, ¬before x x) : i ≤ i' ∧ j ≤ j' := by
  have hfront := hends.front_count
  have hback := hends.back_count
  have hi := hends.le_left
  constructor
  · exact le_of_meet htrans hirrefl (by omega) (by omega) (by omega)
      (fun x hx y hy => hahead x (hends.mem_front.mpr (Or.inl hx)) y (Or.inr hy))
      (fun y hy x hx => hbehind x (hends.mem_back.mpr (Or.inl hx)) y (Or.inr hy))
  · exact le_of_meet htrans hirrefl (by omega) (by omega) (by omega)
      (fun x hx y hy => hahead x (hends.mem_front.mpr (Or.inr hx)) y (Or.inl hy))
      (fun y hy x hx => hbehind x (hends.mem_back.mpr (Or.inr hx)) y (Or.inl hy))

/-- The element in the middle goes between them. -/
theorem Ends.pairwise_append (hlonger : right.length ≤ left.length + 1) (hmeet : i ≤ i' ∧ j ≤ j')
    (hfront : front.Pairwise before) (hback : back.reverse.Pairwise before) :
    (front ++ ((left.drop i).take (i' - i) ++ (right.drop j).take (j' - j)) ++ back.reverse).Pairwise
      before := by
  have hfrontCount := hends.front_count
  have hbackCount := hends.back_count
  rw [← List.drop_take, ← List.drop_take]
  have hmiddle : ((left.take i').drop i ++ (right.take j').drop j).Pairwise before := by
    refine pairwise_of_length_lt_two ?_
    rw [List.length_append, List.length_drop, List.length_drop, List.length_take, List.length_take]
    omega
  have hfrontMiddle : ∀ x ∈ front, ∀ y ∈ (left.take i').drop i ++ (right.take j').drop j,
      before x y := by
    intro x hx y hy
    rw [List.drop_take, List.drop_take] at hy
    exact hahead x hx y ((List.mem_append.mp hy).imp List.mem_of_mem_take List.mem_of_mem_take)
  refine List.pairwise_append.mpr ⟨List.pairwise_append.mpr ⟨hfront, hmiddle, hfrontMiddle⟩, hback, ?_⟩
  intro x hx y hy
  rw [List.mem_reverse] at hy
  rcases List.mem_append.mp hx with hx | hx
  · exact hahead x hx y ((hends.mem_back.mp hy).imp
      (fun hy => (List.drop_sublist_drop_left left hmeet.1).subset hy)
      (fun hy => (List.drop_sublist_drop_left right hmeet.2).subset hy))
  · exact hbehind y hy x ((List.mem_append.mp hx).imp List.mem_of_mem_drop List.mem_of_mem_drop)

end

/-- Halves that are sorted can be merged from both ends. -/
theorem exists_mergeHalves (harranges : Arranges precedes before) (hlength : left.length ≤ right.length)
    (hlonger : right.length ≤ left.length + 1) (hleft : left.Pairwise before)
    (hright : right.Pairwise before)
    (hcross : ∀ x ∈ left, ∀ y ∈ right, Settles precedes before x y) :
    ∃ ys, mergeHalves precedes left right = some ys ∧ ys.Pairwise before := by
  obtain ⟨front, back, i, j, i', j', hends⟩ := exists_ends precedes hlength
  obtain ⟨hfront, hahead⟩ :=
    before_mergeFront precedes before harranges.trans left.length hleft hright hcross
  -- the merge from the back is one of the reversed lists
  obtain ⟨hback, hbehind⟩ := before_mergeFront (fun x y => precedes y x) (fun x y => before y x)
    (fun _ _ _ hyx hzy => harranges.trans hzy hyx) left.length
    (List.pairwise_reverse.mpr hright) (List.pairwise_reverse.mpr hleft)
    (fun y hy x hx => (hcross x (List.mem_reverse.mp hx) y (List.mem_reverse.mp hy)).flip)
  simp only [hends.front_eq, List.mem_append] at hfront hahead
  simp only [hends.back_eq, List.mem_append, List.mem_reverse] at hback hbehind
  have hbehind := fun a ha b (hb : b ∈ left.take i' ∨ b ∈ right.take j') => hbehind a ha b hb.symm
  have hmeet := hends.meet hlength hahead hbehind harranges.trans harranges.irrefl
  refine ⟨_, by rw [hends.mergeHalves_eq hlength hlonger, if_pos hmeet], ?_⟩
  exact hends.pairwise_append hlength hahead hbehind hlonger hmeet hfront
    (List.pairwise_reverse.mpr hback)

/-- A short piece is sorted. -/
theorem exists_smallSort (harranges : Arranges precedes before)
    (h : xs.Pairwise (Settles precedes before)) :
    ∃ ys, smallSort precedes xs = some ys ∧ ys.Pairwise before := by
  rw [smallSort]
  split
  next hshort => exact ⟨xs, rfl, pairwise_of_length_lt_two hshort⟩
  next =>
    have hperm := fun half => perm_sortHalf precedes (8 ≤ xs.length) half
    have hlow := (hperm (xs.take (xs.length / 2))).length_eq
    have hhigh := (hperm (xs.drop (xs.length / 2))).length_eq
    rw [List.length_take] at hlow
    rw [List.length_drop] at hhigh
    rw [← List.take_append_drop (xs.length / 2) xs, List.pairwise_append] at h
    exact exists_mergeHalves harranges (by omega) (by omega) (pairwise_sortHalf harranges h.1)
      (pairwise_sortHalf harranges h.2.1)
      fun x hx y hy => h.2.2 x ((hperm _).subset hx) y ((hperm _).subset hy)

/-- Two sorted lists make one, from whichever end they are merged. -/
theorem pairwise_merge (precedes : α → α → Bool) (before : α → α → Prop)
    (htrans : ∀ ⦃x y z⦄, before x y → before y z → before x z) (hleft : left.Pairwise before)
    (hright : right.Pairwise before)
    (hcross : ∀ x ∈ left, ∀ y ∈ right, Settles precedes before x y) :
    (left.merge right fun x y => !precedes y x).Pairwise before := by
  fun_induction List.merge left right fun x y => !precedes y x with
  | case1 ys => exact hright
  | case2 xs => exact hleft
  | case3 x xs y ys hpre ih =>
    have hxy := (hcross x List.mem_cons_self y List.mem_cons_self).keeps (by simpa using hpre)
    refine List.pairwise_cons.mpr ⟨?_, ih hleft.of_cons hright
      fun a ha b hb => hcross a (List.mem_cons_of_mem _ ha) b hb⟩
    intro b hb
    rcases List.mem_merge.mp hb with hb | hb
    · exact List.rel_of_pairwise_cons hleft hb
    · rcases List.mem_cons.mp hb with rfl | hb
      · exact hxy
      · exact htrans hxy (List.rel_of_pairwise_cons hright hb)
  | case4 x xs y ys hpre ih =>
    have hyx := (hcross x List.mem_cons_self y List.mem_cons_self).swaps (by simpa using hpre)
    refine List.pairwise_cons.mpr ⟨?_, ih hleft hright.of_cons
      fun a ha b hb => hcross a ha b (List.mem_cons_of_mem _ hb)⟩
    intro b hb
    rcases List.mem_merge.mp hb with hb | hb
    · rcases List.mem_cons.mp hb with rfl | hb
      · exact hyx
      · exact htrans hyx (List.rel_of_pairwise_cons hleft hb)
    · exact List.rel_of_pairwise_cons hright hb

/-- A merge sorts, from whichever end it goes. -/
theorem pairwise_mergeSorted (harranges : Arranges precedes before) (hleft : left.Pairwise before)
    (hright : right.Pairwise before)
    (hcross : ∀ x ∈ left, ∀ y ∈ right, Settles precedes before x y) :
    (mergeSorted precedes left right).Pairwise before := by
  rw [mergeSorted]
  split
  · exact pairwise_merge precedes before harranges.trans hleft hright hcross
  · refine List.pairwise_reverse.mpr (pairwise_merge (fun x y => precedes y x) (fun x y => before y x)
      (fun _ _ _ hyx hzy => harranges.trans hzy hyx) (List.pairwise_reverse.mpr hright)
      (List.pairwise_reverse.mpr hleft) ?_)
    exact fun y hy x hx => (hcross x (List.mem_reverse.mp hx) y (List.mem_reverse.mp hy)).flip

/-! ## Runs -/

/-- Elements that are related one to the next are related all. -/
theorem pairwise_take_chain (related : α → α → Bool) (R : α → α → Prop)
    (htrans : ∀ ⦃x y z⦄, R x y → R y z → R x z) {x : α}
    (h : (x :: xs).Pairwise fun x y => related x y = true → R x y) :
    ((x :: xs).take (chain related x xs + 1)).Pairwise R := by
  induction xs generalizing x with
  | nil => exact List.pairwise_singleton R x
  | cons y xs ih =>
    have ih := ih h.of_cons
    rw [chain]
    split
    next hrelated =>
      have hxy : R x y := List.rel_of_pairwise_cons h List.mem_cons_self hrelated
      refine List.pairwise_cons.mpr ⟨?_, ih⟩
      intro z hz
      rw [List.take_succ_cons] at hz ih
      rcases List.mem_cons.mp hz with rfl | hz
      · exact hxy
      · exact htrans hxy (List.rel_of_pairwise_cons ih hz)
    next => exact List.pairwise_singleton R x

/-- A run that is found in a list is in order, or in the opposite one. -/
theorem pairwise_existingRun (htrans : ∀ ⦃x y z⦄, before x y → before y z → before x z)
    (h : xs.Pairwise (Settles precedes before)) :
    let run := xs.take (existingRun precedes xs).1
    (if (existingRun precedes xs).2 then run.reverse else run).Pairwise before := by
  match xs, h with
  | [], _ => exact List.Pairwise.nil
  | [x], _ => exact List.pairwise_singleton before x
  | x :: y :: xs, h =>
    rw [existingRun]
    split
    next hpre =>
      have hchain := pairwise_take_chain (fun x y => precedes y x) (fun x y => before y x)
        (fun _ _ _ hyx hzy => htrans hzy hyx) (h.imp fun h => h.swaps)
      rw [chain, if_pos hpre] at hchain
      exact List.pairwise_reverse.mpr hchain
    next hpre =>
      have hchain := pairwise_take_chain (fun x y => !precedes y x) before htrans
        (h.imp fun h hkeep => h.keeps (by simpa using hkeep))
      rw [chain, if_pos (by simpa using hpre)] at hchain
      exact hchain

section

/-- Whether a run is sorted if it is said to be. Else it holds elements as they stood, and there are no
such runs where short pieces are sorted right away. -/
def Run.Arranged (before stood : α → α → Prop) (eager : Bool) (run : Run α) : Prop :=
  if run.sorted then run.elements.Pairwise before
  else eager = false ∧ run.elements.Pairwise stood

variable (harranges : Arranges precedes before)
  (hstood : ∀ x y, stood x y → Settles precedes before x y)
include harranges hstood

/-- The run at the start of a list is sorted or left as it stood. -/
theorem exists_firstRun {minGood : Nat} {eager : Bool} (h : xs.Pairwise stood) :
    ∃ run, firstRun precedes minGood eager xs = some run ∧ run.Arranged before stood eager := by
  rw [firstRun]
  dsimp only
  split
  · refine ⟨_, rfl, ?_⟩
    exact pairwise_existingRun harranges.trans (h.imp (hstood _ _))
  · cases eager with
    | true =>
      obtain ⟨ys, hys, hsorted⟩ :=
        exists_smallSort harranges ((h.imp (hstood _ _)).sublist (List.take_sublist maxSmall xs))
      exact ⟨⟨ys, true⟩, by rw [if_pos rfl, hys]; rfl, hsorted⟩
    | false => exact ⟨_, rfl, rfl, h.sublist (List.take_sublist minGood xs)⟩

/-- Whether runs are arranged, and the elements of each stood in front of those of the runs that follow. -/
def RunsArranged (before stood : α → α → Prop) (eager : Bool) : List (Run α) → Prop
  | [] => True
  | run :: runs =>
    run.Arranged before stood eager ∧
      (∀ x ∈ run.elements, ∀ y ∈ runs.flatMap Run.elements, stood x y) ∧
      RunsArranged before stood eager runs

/-- A list is cut into runs that are arranged. -/
theorem exists_cutRuns {minGood : Nat} (eager : Bool) (hgood : 0 < minGood) (skipped : Nat)
    (h : xs.Pairwise stood) :
    ∃ runs, cutRuns precedes minGood eager skipped xs = some runs ∧
      RunsArranged before stood eager runs := by
  induction xs generalizing skipped with
  | nil => exact ⟨[], rfl, trivial⟩
  | cons x xs ih =>
    cases skipped with
    | succ skipped => exact ih skipped h.of_cons
    | zero =>
      obtain ⟨run, hrun, harranged⟩ := exists_firstRun harranges hstood h
      obtain ⟨rest, hrest, hrestArranged⟩ := ih (run.elements.length - 1) h.of_cons
      obtain ⟨hne, hperm⟩ := perm_firstRun hgood (List.cons_ne_nil x xs) hrun
      have hpermRest := perm_cutRuns hgood hrest
      rw [drop_length_pred x hne] at hpermRest
      rw [← List.take_append_drop run.elements.length (x :: xs), List.pairwise_append] at h
      refine ⟨run :: rest, by rw [cutRuns, hrun]; simp [hrest], harranged, ?_, hrestArranged⟩
      intro y hy z hz
      exact h.2.2 y (hperm.subset hy) z (hpermRest.subset hz)

variable {sortRun : List α → Option (List α)} {eager : Bool} {n : Nat}
  (hperm : ∀ {xs ys}, sortRun xs = some ys → ys.Perm xs)
  (hsort : eager = false → ∀ {xs}, xs.Pairwise stood →
    ∃ ys, sortRun xs = some ys ∧ ys.Pairwise before)
include hperm hsort

omit harranges hstood hperm in
theorem exists_sortOfRun {run : Run α} (h : run.Arranged before stood eager) :
    ∃ ys, run.sort sortRun = some ys ∧ ys.Pairwise before := by
  rw [Run.Arranged] at h
  rw [Run.sort]
  split at h
  next hsorted => exact ⟨run.elements, by rw [if_pos hsorted], h⟩
  next hsorted =>
    rw [if_neg hsorted]
    exact hsort h.1 h.2

/-- Two runs make one that is sorted, or holds what they held. -/
theorem exists_joinRuns {low high : Run α} (hlow : low.Arranged before stood eager)
    (hhigh : high.Arranged before stood eager)
    (hcross : ∀ x ∈ low.elements, ∀ y ∈ high.elements, stood x y) :
    ∃ run, joinRuns precedes sortRun n low high = some run ∧ run.Arranged before stood eager := by
  rw [joinRuns]
  split
  next hunsorted =>
    simp only [Bool.not_eq_true'] at hunsorted
    rw [Run.Arranged, hunsorted.1] at hlow
    rw [Run.Arranged, hunsorted.2.1] at hhigh
    exact ⟨_, rfl, hlow.1, List.pairwise_append.mpr ⟨hlow.2, hhigh.2, hcross⟩⟩
  next =>
    obtain ⟨xs, hxs, hxsSorted⟩ := exists_sortOfRun hsort hlow
    obtain ⟨ys, hys, hysSorted⟩ := exists_sortOfRun hsort hhigh
    refine ⟨⟨mergeSorted precedes xs ys, true⟩, by rw [hxs, hys]; rfl, ?_⟩
    refine pairwise_mergeSorted harranges hxsSorted hysSorted ?_
    intro x hx y hy
    apply hstood
    exact hcross x ((perm_sortOfRun hperm hxs).subset hx) y ((perm_sortOfRun hperm hys).subset hy)

/-- The same for a stack of runs, the newest run first. -/
def StackArranged (before stood : α → α → Prop) (eager : Bool) : List (Run α × Nat) → Prop
  | [] => True
  | (run, _) :: stack =>
    run.Arranged before stood eager ∧ (∀ x ∈ stacked stack, ∀ y ∈ run.elements, stood x y) ∧
      StackArranged before stood eager stack

/-- Joining runs of a stack leaves them arranged. -/
theorem exists_collapse (depth : Nat) {runDepth : Nat} {stack : List (Run α × Nat)} {run : Run α}
    (h : StackArranged before stood eager ((run, runDepth) :: stack)) :
    ∃ stack' run', collapse precedes sortRun n depth stack run = some (stack', run') ∧
      ∀ depth', StackArranged before stood eager ((run', depth') :: stack') := by
  induction stack generalizing run with
  | nil => exact ⟨[], run, rfl, fun _ => h⟩
  | cons top stack ih =>
    obtain ⟨hrun, hcross, htop, hbelow, hstack⟩ := h
    rw [stacked_cons, List.forall_mem_append] at hcross
    rw [collapse]
    split
    · obtain ⟨joined, hjoined, harranged⟩ :=
        exists_joinRuns harranges hstood hperm hsort htop hrun hcross.2
      rw [hjoined]
      refine ih ⟨harranged, ?_, hstack⟩
      intro x hx y hy
      rcases List.mem_append.mp ((perm_joinRuns hperm hjoined).subset hy) with hy | hy
      · exact hbelow x hx y hy
      · exact hcross.1 x hx y hy
    · refine ⟨_, run, rfl, fun _ => ⟨hrun, ?_, htop, hbelow, hstack⟩⟩
      rwa [stacked_cons, List.forall_mem_append]

/-- Runs are joined to one. -/
theorem exists_joinAll {stack : List (Run α × Nat)} {run : Run α} {runDepth : Nat}
    (scanned : Nat) {runs : List (Run α)}
    (hstack : StackArranged before stood eager ((run, runDepth) :: stack))
    (hruns : RunsArranged before stood eager runs)
    (hcross : ∀ x ∈ stacked stack ++ run.elements, ∀ y ∈ runs.flatMap Run.elements, stood x y) :
    ∃ whole, joinAll precedes sortRun n stack run scanned runs = some whole ∧
      whole.Arranged before stood eager := by
  induction runs generalizing stack run runDepth scanned with
  | nil =>
    obtain ⟨stack', run', hcollapse, harranged⟩ :=
      exists_collapse harranges hstood hperm hsort (n := n) 0 hstack
    exact ⟨run', by rw [joinAll, hcollapse]; rfl, (harranged 0).1⟩
  | cons next runs ih =>
    obtain ⟨hnext, hahead, hruns⟩ := hruns
    rw [List.flatMap_cons] at hcross
    rw [joinAll]
    dsimp only
    generalize mergeDepth n (scanned - run.elements.length) scanned
      (scanned + next.elements.length) = depth
    obtain ⟨stack', run', hcollapse, harranged⟩ :=
      exists_collapse harranges hstood hperm hsort (n := n) depth hstack
    have hpermStack := perm_collapse hperm hcollapse
    have hcross : ∀ x ∈ stacked ((run', depth) :: stack'),
        ∀ y ∈ next.elements ++ runs.flatMap Run.elements, stood x y := fun x hx => by
      rw [stacked_cons] at hx
      exact hcross x (hpermStack.subset hx)
    rw [hcollapse]
    have hstack : StackArranged before stood eager ((next, 0) :: (run', depth) :: stack') :=
      ⟨hnext, fun x hx y hy => hcross x hx y (List.mem_append_left _ hy), harranged depth⟩
    refine ih _ hstack hruns ?_
    intro x hx y hy
    rcases List.mem_append.mp hx with hx | hx
    · exact hcross x hx y (List.mem_append_right _ hy)
    · exact hahead x hx y hy

/-- A list is sorted by its runs. -/
theorem exists_sortByRuns (h : xs.Pairwise stood) :
    ∃ ys, sortByRuns precedes sortRun eager xs = some ys ∧ ys.Pairwise before := by
  by_cases hxs : xs = []
  · subst hxs
    exact ⟨[], rfl, List.Pairwise.nil⟩
  have hgood := minGoodRun_pos (List.length_pos_iff.mpr hxs)
  obtain ⟨runs, hruns, harranged⟩ := exists_cutRuns harranges hstood eager hgood 0 h
  rw [sortByRuns, hruns]
  match runs, harranged with
  | [], _ => exact ⟨[], rfl, List.Pairwise.nil⟩
  | run :: runs, ⟨hrun, hahead, hruns⟩ =>
    have hstack : StackArranged before stood eager [(run, 0)] :=
      ⟨hrun, (fun _ hx => nomatch hx), trivial⟩
    obtain ⟨whole, hwhole, hwholeArranged⟩ := exists_joinAll harranges hstood hperm hsort
      (n := xs.length) run.elements.length hstack hruns hahead
    obtain ⟨ys, hys, hsorted⟩ := exists_sortOfRun hsort hwholeArranged
    exact ⟨ys, by simp [hwhole, hys], hsorted⟩

end

end DriftSort

/-! ## Orders -/

variable {s : α → Prop} {place : α → Nat} {x y z : α}

/-- Whether a test puts the elements of a set in order, of which some can be level. -/
structure Orders (precedes : α → α → Bool) (s : α → Prop) : Prop where
  asymm : ∀ {x y}, s x → s y → precedes x y = true → precedes y x = false
  trans : ∀ {x y z}, s x → s y → s z → precedes y x = false → precedes z y = false →
    precedes z x = false

/-- Whether an element of a set goes in front of another one: it is not preceded by it, and if both are
level it was in front of it from the start. -/
structure Leads (precedes : α → α → Bool) (s : α → Prop) (place : α → Nat) (x y : α) : Prop where
  within : s x ∧ s y
  not_precedes : precedes y x = false
  placed : precedes x y = false → place x < place y

/-- Whether an element of a set was in front of another one from the start. -/
def Stood (s : α → Prop) (place : α → Nat) (x y : α) : Prop :=
  (s x ∧ s y) ∧ place x < place y

namespace Orders

variable (h : Orders precedes s)
include h

/-- So they have an order in which level elements stay as they stood. -/
theorem arranges (place : α → Nat) : Arranges precedes (Leads precedes s place) where
  trans x y z hxy hyz := by
    obtain ⟨hx, hy⟩ := hxy.within
    obtain ⟨-, hz⟩ := hyz.within
    refine ⟨⟨hx, hz⟩, h.trans hx hy hz hxy.not_precedes hyz.not_precedes, ?_⟩
    intro hback
    -- all three are level
    exact Nat.lt_trans (hxy.placed (h.trans hy hz hx hyz.not_precedes hback))
      (hyz.placed (h.trans hz hx hy hback hxy.not_precedes))
  irrefl x hx := Nat.lt_irrefl _ (hx.placed hx.not_precedes)
  not_precedes hxy := hxy.not_precedes

theorem self (hx : s x) : precedes x x = false := by
  cases hself : precedes x x with
  | false => rfl
  | true => exact hself.symm.trans (h.asymm hx hx hself)

/-- An element goes in front of those it precedes, wherever it stood. -/
theorem leads_of_precedes (hx : s x) (hy : s y) (hxy : precedes x y = true) :
    Leads precedes s place x y := by
  refine ⟨⟨hx, hy⟩, h.asymm hx hy hxy, ?_⟩
  intro hnot
  rw [hxy] at hnot
  cases hnot

/-- Elements are told apart by comparing the later one with the earlier one. -/
theorem settles (x y : α) (hxy : Stood s place x y) :
    Settles precedes (Leads precedes s place) x y :=
  ⟨h.leads_of_precedes hxy.1.2 hxy.1.1, fun hkeep => ⟨hxy.1, hkeep, fun _ => hxy.2⟩⟩

/-- What comes before an element precedes what does not. -/
theorem leads_of_precedes_left (hx : s x) (hy : s y) (hz : s z) (hxz : precedes x z = true)
    (hyz : precedes y z = false) : Leads precedes s place x y := by
  refine h.leads_of_precedes hx hy ?_
  by_contra hxy
  rw [h.trans hz hy hx hyz (by simpa using hxy)] at hxz
  cases hxz

/-- What does not come after an element precedes what does. -/
theorem leads_of_precedes_right (hx : s x) (hy : s y) (hz : s z) (hzx : precedes z x = false)
    (hzy : precedes z y = true) : Leads precedes s place x y := by
  refine h.leads_of_precedes hx hy ?_
  by_contra hxy
  rw [h.trans hy hx hz (by simpa using hxy) hzx] at hzy
  cases hzy

end Orders

/-- The elements of a list that is longer than one are all in the set. -/
theorem within_of_stood {xs : List α} (h : xs.Pairwise (Stood s place)) (hlong : 2 ≤ xs.length) :
    ∀ x ∈ xs, s x := by
  match xs, hlong with
  | x :: y :: xs, _ =>
    intro z hz
    rcases List.mem_cons.mp hz with rfl | hz
    · exact (List.rel_of_pairwise_cons h List.mem_cons_self).1.1
    · exact (List.rel_of_pairwise_cons h hz).1.2

namespace DriftSort

variable {xs : List α}

/-! ## Quicksort -/

theorem medianPlace_lt {i j k bound : Nat} (hi : i < bound) (hj : j < bound) (hk : k < bound) :
    medianPlace precedes xs i j k < bound := by
  rw [medianPlace]
  split
  · split
    · exact hk
    · exact hj
  · exact hi

/-- A middle place lies in the stretch it is looked for in. -/
theorem middlePlace_lt (precedes : α → α → Bool) (xs : List α) (start : Nat) {n : Nat} (hn : 0 < n) :
    middlePlace precedes xs start n < start + n := by
  induction n using Nat.strongRecOn generalizing start with
  | ind n ih =>
    rw [middlePlace]
    split
    · omega
    · have hpart := fun start => ih (n / 8) (by omega) start (by omega)
      have h₁ := hpart start
      have h₂ := hpart (start + 4 * (n / 8))
      have h₃ := hpart (start + 7 * (n / 8))
      exact medianPlace_lt (by omega) (by omega) (by omega)

/-- The pivot is an element of the list. -/
theorem pivotPlace_lt (h : 8 ≤ xs.length) : pivotPlace precedes xs < xs.length := by
  have hpart := fun start =>
    middlePlace_lt precedes xs start (show 0 < xs.length / 8 by omega)
  have h₁ := hpart 0
  have h₂ := hpart (4 * (xs.length / 8))
  have h₃ := hpart (7 * (xs.length / 8))
  exact medianPlace_lt (by omega) (by omega) (by omega)

theorem sublist_others (pre post : List α) (pivot : α) :
    (pre ++ post).Sublist (pre ++ pivot :: post) :=
  (List.sublist_cons_self pivot post).append_left pre

/-- What is parted off with the pivot stays in its order. -/
theorem sublist_parted (test : α → Bool) (pre post : List α) (pivot : α) :
    (pre.filter test ++ pivot :: post.filter test).Sublist (pre ++ pivot :: post) :=
  List.filter_sublist.append (List.filter_sublist.cons_cons pivot)

/-- An element of what is parted off with the pivot is the pivot or passes the test. -/
theorem of_mem_parted (test : α → Bool) {pre post : List α} {pivot : α} (hpivot : test pivot = true)
    (hx : x ∈ pre.filter test ++ pivot :: post.filter test) : test x = true := by
  simp only [List.mem_append, List.mem_cons, List.mem_filter] at hx
  rcases hx with hx | rfl | hx
  · exact hx.2
  · exact hpivot
  · exact hx.2

/-- The elements that are level with one that precedes none of the others stay as they stood, in front of
the others. -/
theorem pairwise_level_append (horders : Orders precedes s) {pre post rest : List α} {pivot : α}
    (hwithin : ∀ x ∈ pre ++ pivot :: post, s x)
    (hstood : (pre ++ pivot :: post).Pairwise (Stood s place))
    (hleast : ∀ x ∈ pre ++ pivot :: post, precedes x pivot = false)
    (hrest : rest.Pairwise (Leads precedes s place))
    (hperm : rest.Perm ((pre ++ post).filter fun x => precedes pivot x)) :
    (pre.filter (fun x => !precedes pivot x) ++ pivot :: post.filter (fun x => !precedes pivot x) ++
      rest).Pairwise (Leads precedes s place) := by
  have hpivot : pivot ∈ pre ++ pivot :: post := List.mem_append_right _ List.mem_cons_self
  have hlevel := sublist_parted (fun x => !precedes pivot x) pre post pivot
  have hnot : ∀ x ∈ pre.filter (fun x => !precedes pivot x) ++
      pivot :: post.filter (fun x => !precedes pivot x), precedes pivot x = false := fun x hx => by
    simpa using of_mem_parted (fun x => !precedes pivot x) (by simp [hleast pivot hpivot]) hx
  refine List.pairwise_append.mpr ⟨?_, hrest, ?_⟩
  · refine (hstood.sublist hlevel).imp_of_mem fun {x y} hx hy hxy => ⟨hxy.1, ?_, fun _ => hxy.2⟩
    exact horders.trans hxy.1.1 (hwithin pivot hpivot) hxy.1.2 (hnot x hx)
      (hleast y (hlevel.subset hy))
  · intro x hx y hy
    have hy := List.mem_filter.mp (hperm.subset hy)
    exact horders.leads_of_precedes_right (hwithin x (hlevel.subset hx))
      (hwithin y ((sublist_others pre post pivot).subset hy.1)) (hwithin pivot hpivot) (hnot x hx) hy.2

/-- Nothing precedes a pivot that is level with one that the list was parted by before, or for which nothing
is parted off. -/
theorem not_precedes_pivot (horders : Orders precedes s) {pre post : List α} {pivot : α}
    {ancestor : Option α} (hwithin : ∀ x ∈ pre ++ pivot :: post, s x)
    (hancestor : ∀ a ∈ ancestor, s a ∧ ∀ x ∈ pre ++ pivot :: post, precedes x a = false)
    (h : ancestor.any (fun a => !precedes a pivot) = true ∨
      (pre ++ post).filter (fun x => precedes x pivot) = []) :
    ∀ x ∈ pre ++ pivot :: post, precedes x pivot = false := by
  intro x hx
  have hpivot := hwithin pivot (List.mem_append_right _ List.mem_cons_self)
  rcases h with hlevel | hnone
  · cases ancestor with
    | none => cases hlevel
    | some a =>
      obtain ⟨ha, hbelow⟩ := hancestor a rfl
      exact horders.trans hpivot ha (hwithin x hx) (by simpa using hlevel) (hbelow x hx)
  · rw [List.filter_eq_nil_iff] at hnone
    rcases List.mem_cons.mp (List.perm_middle.subset hx) with rfl | hx
    · exact horders.self hpivot
    · simpa using hnone x hx

/-- A list is sorted by quicksort. No element of it precedes one that it was parted by before. -/
theorem exists_quicksort (horders : Orders precedes s) (limit : Nat) (ancestor : Option α)
    (h : xs.Pairwise (Stood s place))
    (hancestor : ∀ a ∈ ancestor, s a ∧ ∀ x ∈ xs, precedes x a = false) :
    ∃ ys, quicksort precedes limit ancestor xs = some ys ∧
      ys.Pairwise (Leads precedes s place) := by
  have harranges := horders.arranges place
  have hsmall : ∃ ys, smallSort precedes xs = some ys ∧ ys.Pairwise (Leads precedes s place) :=
    exists_smallSort harranges (h.imp (horders.settles _ _))
  induction limit generalizing ancestor xs with
  | zero =>
    rw [quicksort]
    split
    · exact hsmall
    · refine exists_sortByRuns harranges horders.settles (fun h => Option.some.inj h ▸ .refl _) ?_ h
      -- all runs are sorted by then
      intro heager
      cases heager
  | succ limit ih =>
    have ih := fun ancestor {ys : List α} (hys : ys.Sublist xs) hancestor =>
      ih ancestor (h.sublist hys) hancestor
        (exists_smallSort harranges ((h.sublist hys).imp (horders.settles _ _)))
    rw [quicksort]
    split
    · exact hsmall
    next hlong =>
      rw [maxSmall] at hlong
      have hwithin := within_of_stood h (by omega)
      have hplace : pivotPlace precedes xs < xs.length := pivotPlace_lt (by omega)
      dsimp only
      generalize hpre : xs.take (pivotPlace precedes xs) = pre
      split
      next hpost =>
        rw [List.drop_eq_nil_iff] at hpost
        omega
      next pivot post hpost =>
        obtain rfl : pre ++ pivot :: post = xs := by rw [← hpre, ← hpost, List.take_append_drop]
        have hpivot : pivot ∈ pre ++ pivot :: post := List.mem_append_right _ List.mem_cons_self
        have hfilter := fun test =>
          (List.filter_sublist (p := test)).trans (sublist_others pre post pivot)
        split
        next hlevel =>
          have hleast := not_precedes_pivot horders hwithin hancestor hlevel
          obtain ⟨rest, hrest, hsorted⟩ :=
            ih none (hfilter fun x => precedes pivot x) (by simp)
          rw [hrest]
          exact ⟨_, rfl, pairwise_level_append horders hwithin h hleast hsorted (perm_quicksort hrest)⟩
        next hsplit =>
          have hhighSub := sublist_parted (fun x => !precedes x pivot) pre post pivot
          have hnot : ∀ x ∈ pre.filter (fun x => !precedes x pivot) ++
              pivot :: post.filter (fun x => !precedes x pivot), precedes x pivot = false := fun x hx => by
            simpa using of_mem_parted (fun x => !precedes x pivot)
              (by simp [horders.self (hwithin pivot hpivot)]) hx
          obtain ⟨high, hhigh, hhighSorted⟩ := ih (some pivot) hhighSub
            fun a ha => Option.mem_some.mp ha ▸ ⟨hwithin pivot hpivot, hnot⟩
          obtain ⟨low, hlow, hlowSorted⟩ := ih ancestor
            (hfilter fun x => precedes x pivot) fun a ha => ⟨(hancestor a ha).1, fun x hx =>
              (hancestor a ha).2 x ((hfilter _).subset hx)⟩
          rw [hhigh, hlow]
          refine ⟨_, rfl, List.pairwise_append.mpr ⟨hlowSorted, hhighSorted, ?_⟩⟩
          intro x hx y hy
          have hx := (perm_quicksort hlow).subset hx
          have hy := (perm_quicksort hhigh).subset hy
          exact horders.leads_of_precedes_left (hwithin x ((hfilter _).subset hx))
            (hwithin y (hhighSub.subset hy)) (hwithin pivot hpivot) (List.mem_filter.mp hx).2 (hnot y hy)

end DriftSort

/-- Where the test is an order, the sort of a long list is the same as by insertion. -/
theorem driftSort_eq_stableSort (horders : Orders precedes s) (place : α → Nat) {xs : List α}
    (h : xs.Pairwise (Stood s place)) : driftSort precedes xs = some (stableSort precedes xs) := by
  have harranges := horders.arranges place
  obtain ⟨ys, hys, hsorted⟩ : ∃ ys, driftSort precedes xs = some ys ∧
      ys.Pairwise (Leads precedes s place) :=
    DriftSort.exists_sortByRuns harranges horders.settles DriftSort.perm_quicksort
      (fun _ _ hrun => DriftSort.exists_quicksort horders _ none hrun nofun) h
  have hstable := harranges.pairwise_stableSort (h.imp (horders.settles _ _))
  have hperm := (perm_driftSort hys).trans (perm_stableSort precedes xs).symm
  have heq := hperm.eq_of_pairwise
    (fun x y _ _ hxy hyx => (harranges.irrefl (harranges.trans hxy hyx)).elim) hsorted hstable
  rw [hys, heq]

end SheetScript
