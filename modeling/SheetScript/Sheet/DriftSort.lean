/-!
# Sorting lists by a test

How a list is sorted by a test for what has to come first. Up to twenty elements are sorted by insertion.
Longer lists are cut into runs, which are merged along a balanced tree; a run that was not in order from
the start is sorted by quicksort, and its short pieces by merging two halves from both ends at once.

- `stableSort`: insertion from the back, so that equal elements keep their order; `maxInsertion`.
- `driftSort`: the sort of longer lists. If the test is no order the result can be anything, but the
  merge of two halves notices when its two ends do not meet, and then there is no result.
-/

namespace SheetScript

/-- Insert into a list that is sorted backwards, in front of what does not have to follow. -/
def insertBack {α : Type} (precedes : α → α → Bool) (x : α) : List α → List α
  | [] => [x]
  | y :: ys => if precedes x y then y :: insertBack precedes x ys else x :: y :: ys

/-- Sort by insertion. Each element moves back past those it precedes and no further. -/
def stableSort {α : Type} (precedes : α → α → Bool) (xs : List α) : List α :=
  (xs.foldl (fun sorted x => insertBack precedes x sorted) []).reverse

/-- The longest list that is sorted by insertion. -/
def maxInsertion : Nat := 20

namespace DriftSort

variable {α : Type} (precedes : α → α → Bool)

/-! ## Short pieces -/

/-- The longest piece that is sorted without cutting it up further. -/
def maxSmall : Nat := 32

/-- Sort four elements by five comparisons. -/
def sortFour (a b c d : α) : List α :=
  -- the pairs, the ends and at last the middle
  let (a, b) := if precedes b a then (b, a) else (a, b)
  let (c, d) := if precedes d c then (d, c) else (c, d)
  match precedes c a, precedes d b with
  | false, false => a :: pair b c ++ [d]
  | false, true => a :: pair c d ++ [b]
  | true, false => c :: pair a b ++ [d]
  | true, true => c :: pair a d ++ [b]
where
  pair (x y : α) : List α :=
    if precedes y x then [y, x] else [x, y]

/-- Sort one half of a short piece by insertion, behind four elements that are sorted first if there are
many. -/
def sortHalf (many : Bool) : List α → List α
  | a :: b :: c :: d :: rest =>
    if many then
      (rest.foldl (fun sorted x => insertBack precedes x sorted)
        (sortFour precedes a b c d).reverse).reverse
    else stableSort precedes (a :: b :: c :: d :: rest)
  | xs => stableSort precedes xs

/-- Take a number of elements from the front of two lists, the right one's only if it has to come first.
The result is what was taken and what is left of both. -/
def mergeFront (precedes : α → α → Bool) : Nat → List α → List α → List α × List α × List α
  | n + 1, x :: xs, y :: ys =>
    if precedes y x then
      let (taken, rest) := mergeFront precedes n (x :: xs) ys
      (y :: taken, rest)
    else
      let (taken, rest) := mergeFront precedes n xs (y :: ys)
      (x :: taken, rest)
  | _, xs, ys => ([], xs, ys)

/-- Merge two lists, the right one of the same length or one longer, from both ends at once. There is no
result unless the ends meet, with at most one element between them. -/
def mergeHalves (left right : List α) : Option (List α) :=
  let (front, lowLeft, lowRight) := mergeFront precedes left.length left right
  let (back, _, highLeft) :=
    mergeFront (fun x y => precedes y x) left.length right.reverse left.reverse
  if lowLeft.length + highLeft.length = left.length then
    some (front ++ lowRight.take (right.length - left.length) ++ back.reverse)
  else if left.length < right.length ∧ lowLeft.length + highLeft.length = left.length + 1 then
    some (front ++ lowLeft.take 1 ++ back.reverse)
  else none

/-- Sort a short piece. -/
def smallSort (xs : List α) : Option (List α) :=
  if xs.length < 2 then some xs
  else
    let sorted := sortHalf precedes (8 ≤ xs.length)
    mergeHalves precedes (sorted (xs.take (xs.length / 2))) (sorted (xs.drop (xs.length / 2)))

/-! ## Runs -/

/-- A piece of a list, and whether it is sorted already. -/
structure Run (α : Type) where
  elements : List α
  sorted : Bool

/-- How many elements follow the first one, each of them in the same relation to the one before it. -/
def chain (related : α → α → Bool) : α → List α → Nat
  | _, [] => 0
  | x, y :: ys => if related x y then chain related y ys + 1 else 0

/-- How many elements a list begins with that are in order, and whether that order is strictly
descending. -/
def existingRun : List α → Nat × Bool
  | x :: y :: ys =>
    if precedes y x then (chain (fun x y => precedes y x) y ys + 2, true)
    else (chain (fun x y => !precedes y x) y ys + 2, false)
  | xs => (xs.length, false)

/-- The run at the start of a list: one that is in order if it is long enough. Else a short piece is
sorted right away, or a longer one is left to be sorted later. -/
def firstRun (minGood : Nat) (eager : Bool) (xs : List α) : Option (Run α) :=
  let (length, descending) := existingRun precedes xs
  if minGood ≤ xs.length ∧ minGood ≤ length then
    let run := xs.take length
    some ⟨if descending then run.reverse else run, true⟩
  else if eager then (smallSort precedes (xs.take maxSmall)).map (⟨·, true⟩)
  else some ⟨xs.take minGood, false⟩

/-- Cut a list into runs, behind some elements that belong to the run before it. -/
def cutRuns (minGood : Nat) (eager : Bool) : Nat → List α → Option (List (Run α))
  | _, [] => some []
  | skipped + 1, _ :: xs => cutRuns minGood eager skipped xs
  | 0, x :: xs => do
    let run ← firstRun precedes minGood eager (x :: xs)
    let runs ← cutRuns minGood eager (run.elements.length - 1) xs
    return run :: runs

/-- About the square root of a number. -/
def sqrtApprox (n : Nat) : Nat :=
  let shift := (1 + Nat.log2 (n ||| 1)) / 2
  ((1 <<< shift) + (n >>> shift)) / 2

/-- From which length on a run that is in order is taken as it is. -/
def minGoodRun (n : Nat) : Nat :=
  if n ≤ 4096 then min (n - n / 2) 64 else sqrtApprox n

/-! ## Merging runs -/

/-- How many elements can be set aside while a list is sorted. -/
def scratch (n : Nat) : Nat :=
  max (n - n / 2) (min n 166666)

/-- Merge two sorted lists from the front or from the back, such that the shorter one has to be set
aside. -/
def mergeSorted (left right : List α) : List α :=
  if left.length ≤ right.length then left.merge right fun x y => !precedes y x
  else (right.reverse.merge left.reverse fun y x => !precedes y x).reverse

section

variable (sortRun : List α → Option (List α)) (n : Nat)

/-- The elements of a run in sorted order. -/
def Run.sort (run : Run α) : Option (List α) :=
  if run.sorted then some run.elements else sortRun run.elements

/-- Join two runs. Two unsorted ones stay so as long as they are short enough. -/
def joinRuns (left right : Run α) : Option (Run α) :=
  if !left.sorted ∧ !right.sorted ∧ left.elements.length + right.elements.length ≤ scratch n then
    some ⟨left.elements ++ right.elements, false⟩
  else do return ⟨mergeSorted precedes (← left.sort sortRun) (← right.sort sortRun), true⟩

/-- How deep the place between two runs lies in a balanced tree, where the first run starts, ends and the
second one ends. -/
def mergeDepth (start middle stop : Nat) : Nat :=
  let scale := ((1 <<< 62) + n - 1) / n
  let differing :=
    (scale * (start + middle) % (1 <<< 64)) ^^^ (scale * (middle + stop) % (1 <<< 64))
  if differing = 0 then 64 else 63 - Nat.log2 differing

/-- Join the newest runs of a stack with the one behind them, as far as they lie as deep as wanted. -/
def collapse (depth : Nat) : List (Run α × Nat) → Run α → Option (List (Run α × Nat) × Run α)
  | [], run => some ([], run)
  | (top, topDepth) :: stack, run =>
    if depth ≤ topDepth then do collapse depth stack (← joinRuns precedes sortRun n top run)
    else some ((top, topDepth) :: stack, run)

/-- Join a stack of runs, the one behind them and the ones that follow, along a balanced tree. -/
def joinAll (stack : List (Run α × Nat)) (run : Run α) (scanned : Nat) :
    List (Run α) → Option (Run α)
  | [] => (collapse precedes sortRun n 0 stack run).map Prod.snd
  | next :: runs => do
    let stop := scanned + next.elements.length
    let depth := mergeDepth n (scanned - run.elements.length) scanned stop
    let (stack, run) ← collapse precedes sortRun n depth stack run
    joinAll ((run, depth) :: stack) next stop runs

end

/-- Sort a list by its runs. -/
def sortByRuns (sortRun : List α → Option (List α)) (eager : Bool) (xs : List α) :
    Option (List α) := do
  match ← cutRuns precedes (minGoodRun xs.length) eager 0 xs with
  | [] => return []
  | run :: runs =>
    let whole ← joinAll precedes sortRun xs.length [] run run.elements.length runs
    whole.sort sortRun

/-! ## Quicksort -/

/-- Whether the element at one place has to come before the one at another place. -/
def precedesAt (xs : List α) (i j : Nat) : Bool :=
  xs[i]?.any fun x => xs[j]?.any fun y => precedes x y

/-- The place of the middle one of three elements. -/
def medianPlace (xs : List α) (i j k : Nat) : Nat :=
  let first := precedesAt precedes xs i j
  if first == precedesAt precedes xs i k then if precedesAt precedes xs j k != first then k else j
  else i

/-- The middle of three places in a stretch of a list, each of them a middle one again if the stretch is
long. -/
def middlePlace (xs : List α) (start n : Nat) : Nat :=
  if n < 8 then start
  else
    medianPlace precedes xs (middlePlace xs start (n / 8))
      (middlePlace xs (start + 4 * (n / 8)) (n / 8)) (middlePlace xs (start + 7 * (n / 8)) (n / 8))
termination_by n

/-- The place of the element that a list is parted by. -/
def pivotPlace (xs : List α) : Nat :=
  let n := xs.length / 8
  medianPlace precedes xs (middlePlace precedes xs 0 n) (middlePlace precedes xs (4 * n) n)
    (middlePlace precedes xs (7 * n) n)

/-- Sort a list by parting it, so many times at most. What is level with the element that it was parted
by before is parted off as a whole. -/
def quicksort : Nat → Option α → List α → Option (List α)
  | 0, _, xs =>
    if xs.length ≤ maxSmall then smallSort precedes xs else sortByRuns precedes some true xs
  | limit + 1, ancestor, xs =>
    if xs.length ≤ maxSmall then smallSort precedes xs
    else
      let place := pivotPlace precedes xs
      match xs.drop place with
      | [] => some xs
      | pivot :: after => do
        let before := xs.take place
        let low := (before ++ after).filter fun x => precedes x pivot
        if ancestor.any (fun x => !precedes x pivot) ∨ low = [] then
          let level := before.filter (fun x => !precedes pivot x) ++
            pivot :: after.filter fun x => !precedes pivot x
          return level ++
            (← quicksort limit none ((before ++ after).filter fun x => precedes pivot x))
        else
          let high := before.filter (fun x => !precedes x pivot) ++
            pivot :: after.filter fun x => !precedes x pivot
          let high ← quicksort limit (some pivot) high
          return (← quicksort limit ancestor low) ++ high

end DriftSort

/-- Sort a list of more than twenty elements. -/
def driftSort {α : Type} (precedes : α → α → Bool) (xs : List α) : Option (List α) :=
  DriftSort.sortByRuns precedes
    (fun run => DriftSort.quicksort precedes (2 * Nat.log2 (run.length ||| 1)) none run)
    (xs.length ≤ 2 * DriftSort.maxSmall) xs

end SheetScript
