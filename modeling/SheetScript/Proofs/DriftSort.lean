import Mathlib.Data.List.Basic
import SheetScript.Proofs.StableSort

/-!
# What a sort of a long list keeps

The test that a list is sorted by need not be an order. The sort of a long list may have no result then,
but if it has one, it is made of the elements of the list.

- `mergeFront_eq`: what is taken from two lists and what is left of them.
- `Ends`: where a merge from both ends stops; `Ends.mergeHalves_eq`, `perm_mergeHalves`: two halves are merged
  without a loss if the ends meet.
- `perm_smallSort`, `perm_mergeSorted`, `perm_cutRuns`, `perm_joinAll`, `perm_quicksort`: the parts of the
  sort.
- `perm_driftSort`: the sort.
-/

namespace SheetScript

namespace DriftSort

variable {α : Type} {precedes : α → α → Bool} {xs ys left right : List α}

/-! ## Short pieces -/

theorem perm_pair (precedes : α → α → Bool) (x y : α) :
    (sortFour.pair precedes x y).Perm [x, y] := by
  rw [sortFour.pair]
  split
  · exact .swap x y []
  · exact .refl _

/-- Four elements are put into another order. The cases are the outcomes of the first four
comparisons. -/
theorem perm_sortFour (precedes : α → α → Bool) (a b c d : α) :
    (sortFour precedes a b c d).Perm [a, b, c, d] := by
  classical
  have hpair := fun x y z => (perm_pair precedes x y).count_eq z
  refine List.perm_iff_count.mpr fun z => ?_
  rw [sortFour]
  cases precedes b a <;> cases precedes d c <;> simp only [Bool.false_eq_true, if_false, if_true] <;>
    split <;> simp only [List.count_cons, List.count_append, hpair, List.count_nil] <;> omega

/-- A half is sorted by insertion, some of it behind four elements. -/
theorem perm_sortHalf (precedes : α → α → Bool) (many : Bool) (xs : List α) :
    (sortHalf precedes many xs).Perm xs := by
  rw [sortHalf.eq_def]
  split
  next a b c d rest =>
    cases many with
    | true =>
      have hfour := (List.reverse_perm _).trans (perm_sortFour precedes a b c d)
      exact (List.reverse_perm _).trans
        ((perm_foldl_insertBack precedes _ rest).trans (hfour.append_right rest))
    | false => exact perm_stableSort precedes _
  next => exact perm_stableSort precedes _

/-- What is taken from the front of two lists and what is left of them. -/
theorem mergeFront_eq (precedes : α → α → Bool) (n : Nat) (xs ys : List α) (hxs : n ≤ xs.length)
    (hys : n ≤ ys.length) :
    ∃ i j taken, i + j = n ∧ mergeFront precedes n xs ys = (taken, xs.drop i, ys.drop j) ∧
      taken.Perm (xs.take i ++ ys.take j) := by
  induction n generalizing xs ys with
  | zero => exact ⟨0, 0, [], rfl, by simp [mergeFront], .refl _⟩
  | succ n ih =>
    match xs, ys with
    | x :: xs, y :: ys =>
      rw [List.length_cons] at hxs hys
      rw [mergeFront]
      split
      · obtain ⟨i, j, taken, hcount, hrest, hperm⟩ :=
          ih (x :: xs) ys (by rw [List.length_cons]; omega) (by omega)
        refine ⟨i, j + 1, y :: taken, by omega, by rw [hrest]; rfl, ?_⟩
        exact (hperm.cons y).trans List.perm_middle.symm
      · obtain ⟨i, j, taken, hcount, hrest, hperm⟩ :=
          ih xs (y :: ys) (by omega) (by rw [List.length_cons]; omega)
        exact ⟨i + 1, j, x :: taken, by omega, by rw [hrest]; rfl, hperm.cons x⟩

/-- A list is made of what stands before a place, between it and a later one, and behind that. -/
theorem take_append_between (xs : List α) {i j : Nat} (h : i ≤ j) :
    xs.take i ++ ((xs.drop i).take (j - i) ++ xs.drop j) = xs := by
  have hrest : xs.drop j = (xs.drop i).drop (j - i) := by rw [List.drop_drop, Nat.add_sub_cancel' h]
  rw [hrest, List.take_append_drop, List.take_append_drop]

/-- Two lists are made of what stands in front in both, between and behind. -/
theorem perm_of_parts {front back : List α} {i i' j j' : Nat} (hi : i ≤ i') (hj : j ≤ j')
    (hfront : front.Perm (left.take i ++ right.take j))
    (hback : back.Perm (left.drop i' ++ right.drop j')) :
    (front ++ ((left.drop i).take (i' - i) ++ (right.drop j).take (j' - j)) ++ back).Perm
      (left ++ right) := by
  classical
  refine List.perm_iff_count.mpr fun z => ?_
  have hleft := congrArg (List.count z) (take_append_between left hi)
  have hright := congrArg (List.count z) (take_append_between right hj)
  have hfront := hfront.count_eq z
  have hback := hback.count_eq z
  simp only [List.count_append] at *
  omega

/-- What is taken from the back of two lists and what is left of them. -/
theorem mergeFront_reverse_eq (precedes : α → α → Bool) (n : Nat) (left right : List α)
    (hleft : n ≤ left.length) (hright : n ≤ right.length) :
    ∃ i j taken, (i ≤ left.length ∧ j ≤ right.length ∧ n + (i + j) = left.length + right.length) ∧
      mergeFront precedes n right.reverse left.reverse =
        (taken, (right.take j).reverse, (left.take i).reverse) ∧
      taken.reverse.Perm (left.drop i ++ right.drop j) := by
  obtain ⟨j, i, taken, hcount, hrest, hperm⟩ :=
    mergeFront_eq precedes n right.reverse left.reverse (by rwa [List.length_reverse])
      (by rwa [List.length_reverse])
  refine ⟨left.length - i, right.length - j, taken, by omega, ?_, ?_⟩
  · rw [hrest, List.drop_reverse, List.drop_reverse]
  · rw [List.take_reverse, List.take_reverse] at hperm
    exact (List.reverse_perm _).trans (hperm.trans (List.perm_append_comm.trans
      ((List.reverse_perm _).append (List.reverse_perm _))))

/-- Where a merge of two halves that goes from both ends at once has come to: so many elements of the
halves are in front, and those from so many on are behind. -/
structure Ends (precedes : α → α → Bool) (left right front back : List α) (i j i' j' : Nat) : Prop where
  front_eq : mergeFront precedes left.length left right = (front, left.drop i, right.drop j)
  back_eq : mergeFront (fun x y => precedes y x) left.length right.reverse left.reverse =
    (back, (right.take j').reverse, (left.take i').reverse)
  front_count : i + j = left.length
  back_count : i' + j' = right.length
  le_left : i' ≤ left.length
  perm_front : front.Perm (left.take i ++ right.take j)
  perm_back : back.reverse.Perm (left.drop i' ++ right.drop j')

theorem exists_ends (precedes : α → α → Bool) (hlength : left.length ≤ right.length) :
    ∃ front back i j i' j', Ends precedes left right front back i j i' j' := by
  obtain ⟨i, j, front, hcount, hfront, hpermFront⟩ :=
    mergeFront_eq precedes left.length left right (Nat.le_refl _) hlength
  obtain ⟨i', j', back, ⟨hi', -, hcount'⟩, hback, hpermBack⟩ :=
    mergeFront_reverse_eq (fun x y => precedes y x) left.length left right (Nat.le_refl _) hlength
  exact ⟨front, back, i, j, i', j', hfront, hback, hcount, by omega, hi', hpermFront, hpermBack⟩

/-- The ends meet if no element is on both sides. What is on none of them stands in the middle. -/
theorem Ends.mergeHalves_eq {front back : List α} {i j i' j' : Nat}
    (h : Ends precedes left right front back i j i' j') (hlength : left.length ≤ right.length)
    (hlonger : right.length ≤ left.length + 1) :
    mergeHalves precedes left right =
      if i ≤ i' ∧ j ≤ j' then
        some (front ++ ((left.drop i).take (i' - i) ++ (right.drop j).take (j' - j)) ++ back.reverse)
      else none := by
  have := h.front_count
  have := h.back_count
  have := h.le_left
  rw [mergeHalves, h.front_eq, h.back_eq]
  simp only [List.length_drop, List.length_reverse, List.length_take]
  by_cases hi : i' = i
  · rw [if_pos (by omega), if_pos (by omega), hi, Nat.sub_self, List.take_zero, List.nil_append,
      show j' - j = right.length - left.length by omega]
  rw [if_neg (by omega)]
  by_cases hmeet : i ≤ i' ∧ j ≤ j'
  · rw [if_pos hmeet, if_pos (by omega), show i' - i = 1 by omega, show j' - j = 0 by omega,
      List.take_zero, List.append_nil]
  · rw [if_neg hmeet, if_neg (by omega)]

/-- Two halves are merged without a loss if the ends meet. -/
theorem perm_mergeHalves (hlength : left.length ≤ right.length)
    (hlonger : right.length ≤ left.length + 1)
    (h : mergeHalves precedes left right = some ys) : ys.Perm (left ++ right) := by
  obtain ⟨front, back, i, j, i', j', hends⟩ := exists_ends precedes hlength
  rw [hends.mergeHalves_eq hlength hlonger, Option.ite_none_right_eq_some, Option.some.injEq] at h
  obtain ⟨⟨hi, hj⟩, rfl⟩ := h
  exact perm_of_parts hi hj hends.perm_front hends.perm_back

/-- A short piece is cut in halves that are sorted and merged. -/
theorem perm_smallSort (h : smallSort precedes xs = some ys) : ys.Perm xs := by
  rw [smallSort] at h
  split at h
  · cases h
    exact .refl _
  · have hhalves := fun half => perm_sortHalf precedes (8 ≤ xs.length) half
    have hlow := (hhalves (xs.take (xs.length / 2))).length_eq
    have hhigh := (hhalves (xs.drop (xs.length / 2))).length_eq
    rw [List.length_take] at hlow
    rw [List.length_drop] at hhigh
    refine (perm_mergeHalves (by omega) (by omega) h).trans ?_
    exact ((hhalves _).append (hhalves _)).trans (.of_eq (List.take_append_drop _ xs))

/-! ## Runs -/

/-- The run at the start of a list is made of the elements there, and there are some. -/
theorem perm_firstRun {minGood : Nat} {eager : Bool} {run : Run α} (hgood : 0 < minGood)
    (hxs : xs ≠ []) (h : firstRun precedes minGood eager xs = some run) :
    run.elements ≠ [] ∧ run.elements.Perm (xs.take run.elements.length) := by
  have hpos := List.length_pos_iff.mpr hxs
  have hprefix : ∀ {n : Nat} {ys : List α}, 0 < n → ys.Perm (xs.take n) →
      ys ≠ [] ∧ ys.Perm (xs.take ys.length) := by
    intro n ys hn hperm
    have hlength := hperm.length_eq
    rw [List.length_take] at hlength
    refine ⟨List.length_pos_iff.mp (by omega), ?_⟩
    rw [hlength, ← List.take_take, List.take_length]
    exact hperm
  rw [firstRun] at h
  dsimp only at h
  split at h
  next hlong =>
    cases h
    refine hprefix (Nat.lt_of_lt_of_le hgood hlong.2) ?_
    split
    · exact List.reverse_perm _
    · exact .refl _
  next =>
    cases eager with
    | true =>
      obtain ⟨ys, hys, rfl⟩ := Option.map_eq_some_iff.mp h
      exact hprefix (by decide) (perm_smallSort hys)
    | false =>
      cases h
      exact hprefix hgood (.refl _)

/-- What follows a run at the start of a list. -/
theorem drop_length_pred (x : α) (hne : ys ≠ []) :
    xs.drop (ys.length - 1) = (x :: xs).drop ys.length := by
  rw [← List.drop_succ_cons, Nat.sub_add_cancel (List.length_pos_iff.mpr hne)]

/-- The runs that a list is cut into are made of its elements. -/
theorem perm_cutRuns {minGood : Nat} {eager : Bool} (hgood : 0 < minGood) {skipped : Nat}
    {runs : List (Run α)} (h : cutRuns precedes minGood eager skipped xs = some runs) :
    (runs.flatMap Run.elements).Perm (xs.drop skipped) := by
  induction xs generalizing skipped runs with
  | nil =>
    cases h
    rw [List.drop_nil]
    exact .refl _
  | cons x xs ih =>
    cases skipped with
    | succ skipped => exact ih h
    | zero =>
      obtain ⟨run, hrun, h⟩ := Option.bind_eq_some_iff.mp h
      obtain ⟨rest, hrest, h⟩ := Option.bind_eq_some_iff.mp h
      cases h
      obtain ⟨hne, hperm⟩ := perm_firstRun hgood (List.cons_ne_nil x xs) hrun
      have hpermRest := ih hrest
      rw [drop_length_pred x hne] at hpermRest
      rw [List.flatMap_cons]
      refine (hperm.append hpermRest).trans (.of_eq ?_)
      exact List.take_append_drop _ _

theorem sqrtApprox_pos {n : Nat} (hn : 0 < n) : 0 < sqrtApprox n := by
  rw [sqrtApprox]
  generalize (1 + (n ||| 1).log2) / 2 = shift
  rw [Nat.shiftLeft_eq, Nat.one_mul]
  have hshifted : 2 ≤ 2 ^ shift + n >>> shift := by
    cases shift with
    | zero => exact Nat.add_le_add (Nat.le_refl 1) hn
    | succ shift =>
      have htwo : 2 ≤ 2 ^ (shift + 1) := Nat.le_self_pow (Nat.succ_ne_zero shift) 2
      exact Nat.le_trans htwo (Nat.le_add_right _ _)
  omega

/-- A run that is taken as it is has an element, so every run has. -/
theorem minGoodRun_pos {n : Nat} (hn : 0 < n) : 0 < minGoodRun n := by
  rw [minGoodRun]
  split
  · omega
  · exact sqrtApprox_pos hn

/-! ## Merges -/

/-- A merge keeps all elements, from whichever end it goes. -/
theorem perm_mergeSorted (precedes : α → α → Bool) (left right : List α) :
    (mergeSorted precedes left right).Perm (left ++ right) := by
  rw [mergeSorted]
  split
  · exact List.merge_perm_append _
  · refine (List.reverse_perm _).trans ((List.merge_perm_append _).trans ?_)
    exact List.perm_append_comm.trans ((List.reverse_perm _).append (List.reverse_perm _))

section

variable {sortRun : List α → Option (List α)} {n : Nat}
  (hsort : ∀ {xs ys}, sortRun xs = some ys → ys.Perm xs)
include hsort

theorem perm_sortOfRun {run : Run α} (h : run.sort sortRun = some ys) : ys.Perm run.elements := by
  rw [Run.sort] at h
  split at h
  · cases h
    exact .refl _
  · exact hsort h

/-- Two runs make one with the elements of both, sorted or not. -/
theorem perm_joinRuns {low high run : Run α}
    (h : joinRuns precedes sortRun n low high = some run) :
    run.elements.Perm (low.elements ++ high.elements) := by
  rw [joinRuns] at h
  split at h
  · cases h
    exact .refl _
  · obtain ⟨xs, hxs, h⟩ := Option.bind_eq_some_iff.mp h
    obtain ⟨ys, hys, h⟩ := Option.bind_eq_some_iff.mp h
    cases h
    exact (perm_mergeSorted precedes xs ys).trans
      ((perm_sortOfRun hsort hxs).append (perm_sortOfRun hsort hys))

/-- The elements of a stack of runs, the oldest run first. -/
def stacked (stack : List (Run α × Nat)) : List α :=
  stack.reverse.flatMap fun x => x.1.elements

omit hsort in
/-- The newest run of a stack comes last in the list. -/
theorem stacked_cons (x : Run α × Nat) (stack : List (Run α × Nat)) :
    stacked (x :: stack) = stacked stack ++ x.1.elements := by
  simp [stacked]

/-- Joining runs of the stack keeps all elements. -/
theorem perm_collapse {depth : Nat} {stack stack' : List (Run α × Nat)} {run run' : Run α}
    (h : collapse precedes sortRun n depth stack run = some (stack', run')) :
    (stacked stack' ++ run'.elements).Perm (stacked stack ++ run.elements) := by
  induction stack generalizing run with
  | nil =>
    cases h
    exact .refl _
  | cons top stack ih =>
    rw [collapse] at h
    split at h
    · obtain ⟨joined, hjoined, h⟩ := Option.bind_eq_some_iff.mp h
      rw [stacked_cons, List.append_assoc]
      exact (ih h).trans ((perm_joinRuns hsort hjoined).append_left _)
    · cases h
      exact .refl _

omit hsort in
/-- At the root of the tree nothing stays on the stack. -/
theorem collapse_zero {stack stack' : List (Run α × Nat)} {run run' : Run α}
    (h : collapse precedes sortRun n 0 stack run = some (stack', run')) : stack' = [] := by
  induction stack generalizing run with
  | nil =>
    cases h
    rfl
  | cons top stack ih =>
    rw [collapse, if_pos (Nat.zero_le _)] at h
    obtain ⟨joined, -, h⟩ := Option.bind_eq_some_iff.mp h
    exact ih h

/-- So does joining all runs. -/
theorem perm_joinAll {stack : List (Run α × Nat)} {run whole : Run α} {scanned : Nat}
    {runs : List (Run α)} (h : joinAll precedes sortRun n stack run scanned runs = some whole) :
    whole.elements.Perm (stacked stack ++ (run.elements ++ runs.flatMap Run.elements)) := by
  induction runs generalizing stack run scanned with
  | nil =>
    obtain ⟨⟨stack', _⟩, hcollapse, rfl⟩ := Option.map_eq_some_iff.mp h
    have hperm := perm_collapse hsort hcollapse
    rw [collapse_zero hcollapse] at hperm
    rw [List.flatMap_nil, List.append_nil]
    exact hperm
  | cons next runs ih =>
    obtain ⟨⟨stack', run'⟩, hcollapse, h⟩ := Option.bind_eq_some_iff.mp h
    have hperm := ih h
    rw [stacked_cons] at hperm
    rw [List.flatMap_cons, ← List.append_assoc]
    exact hperm.trans ((perm_collapse hsort hcollapse).append_right _)

/-- A list is cut into runs, and these are joined to one. -/
theorem perm_sortByRuns {eager : Bool} (h : sortByRuns precedes sortRun eager xs = some ys) :
    ys.Perm xs := by
  by_cases hxs : xs = []
  · subst hxs
    cases h
    exact .refl _
  obtain ⟨runs, hruns, h⟩ := Option.bind_eq_some_iff.mp h
  have hperm := perm_cutRuns (minGoodRun_pos (List.length_pos_iff.mpr hxs)) hruns
  match runs, h with
  | [], h =>
    cases h
    exact hperm
  | run :: runs, h =>
    obtain ⟨whole, hwhole, h⟩ := Option.bind_eq_some_iff.mp h
    exact (perm_sortOfRun hsort h).trans ((perm_joinAll hsort hwhole).trans hperm)

end

/-! ## Quicksort -/

/-- A list is made of the elements that pass a test and the others, wherever one of the others stands. -/
theorem perm_parted (test : α → Bool) {before after : List α} {pivot : α} :
    ((before ++ after).filter test ++
      (before.filter (fun x => !test x) ++ pivot :: after.filter fun x => !test x)).Perm
        (before ++ pivot :: after) := by
  classical
  refine List.perm_iff_count.mpr fun z => ?_
  have hbefore := (List.filter_append_perm test before).count_eq z
  have hafter := (List.filter_append_perm test after).count_eq z
  simp only [List.filter_append, List.count_append, List.count_cons] at *
  omega

/-- A list is parted, and the parts are sorted and put together. -/
theorem perm_quicksort {limit : Nat} {ancestor : Option α}
    (h : quicksort precedes limit ancestor xs = some ys) : ys.Perm xs := by
  induction limit generalizing ancestor xs ys with
  | zero =>
    rw [quicksort] at h
    split at h
    · exact perm_smallSort h
    · exact perm_sortByRuns (fun h => Option.some.inj h ▸ .refl _) h
  | succ limit ih =>
    rw [quicksort] at h
    split at h
    · exact perm_smallSort h
    dsimp only at h
    split at h
    · cases h
      exact .refl _
    next pivot after hplace =>
      have hxs : xs.take (pivotPlace precedes xs) ++ pivot :: after = xs := by
        rw [← hplace, List.take_append_drop]
      split at h
      · obtain ⟨rest, hrest, h⟩ := Option.bind_eq_some_iff.mp h
        cases h
        refine ((ih hrest).append_left _).trans (List.perm_append_comm.trans ?_)
        exact (perm_parted _).trans (.of_eq hxs)
      · obtain ⟨high, hhigh, h⟩ := Option.bind_eq_some_iff.mp h
        obtain ⟨low, hlow, h⟩ := Option.bind_eq_some_iff.mp h
        cases h
        refine ((ih hlow).append (ih hhigh)).trans ?_
        exact (perm_parted _).trans (.of_eq hxs)

end DriftSort

/-- A sort of a long list puts its elements into another order. -/
theorem perm_driftSort {α : Type} {precedes : α → α → Bool} {xs ys : List α}
    (h : driftSort precedes xs = some ys) : ys.Perm xs :=
  DriftSort.perm_sortByRuns DriftSort.perm_quicksort h

end SheetScript
