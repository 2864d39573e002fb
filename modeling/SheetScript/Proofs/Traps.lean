import SheetScript.Grid.Block

/-!
# Steps that can trap

Rows and columns are numbers of 32 bits, sizes of 64, and the items of a list are reached by their
index. A step that finds no item, or whose number does not fit, ends the program on the spot: it traps.
Here the numbers of the grid are worked out in single steps, each with its check, and come out the same.
A span or a block lies within the grid, and the grid is small.

- `Trap`: why a step cannot be taken. `Trapping.add32`, `Trapping.sub`, `Trapping.itemAt`, …: the
  single steps.
- `Trapping.Run`: a computation that traps, is refused or has a result; `Trapping.reached`: one that
  does not trap.
- `count_eq`, `height_eq`, `width_eq`, `size_eq`, `moveTo_eq`: the numbers of spans and blocks.
- `columnName_eq`, `text_eq`: the letters of a column and the text of a position.

How many items a list has is not checked, nor a number that counts them: a list that long fits no
memory.
-/

namespace SheetScript

open Grid

/-- Why a step cannot be taken. -/
inductive Trap where
  /-- No item has the index. -/
  | missingItem
  /-- A sum or a product is too large for its type. -/
  | overflow
  /-- More is taken away than there is. -/
  | underflow
  /-- A number is converted to a type it does not fit. -/
  | truncation
  /-- A position or a block is not on the grid. -/
  | offGrid
  /-- A range ends before it starts. -/
  | reversedRange
  /-- A branch is taken that stands there for form only. -/
  | deadBranch
deriving DecidableEq, Repr

namespace Trapping

variable {α β ε : Type}

/-! ## Single steps -/

/-- The item at an index. -/
def itemAt (xs : List α) (i : Nat) : Except Trap α :=
  match xs[i]? with
  | some x => pure x
  | none => throw .missingItem

/-- A list without the item at an index. -/
def removeAt (xs : List α) (i : Nat) : Except Trap (List α) :=
  if i < xs.length then pure (xs.eraseIdx i) else throw .missingItem

/-- A sum in 32 bits. -/
def add32 (a b : Nat) : Except Trap Nat :=
  if a + b ≤ Text.max32 then pure (a + b) else throw .overflow

/-- A product in 64 bits. -/
def mul64 (a b : Nat) : Except Trap Nat :=
  if a * b ≤ Text.max64 then pure (a * b) else throw .overflow

/-- A difference without a sign, in as many bits as its operands. -/
def sub (a b : Nat) : Except Trap Nat :=
  if b ≤ a then pure (a - b) else throw .underflow

/-- A number converted to 32 bits. -/
def to32 (n : Nat) : Except Trap Nat :=
  if n ≤ Text.max32 then pure n else throw .truncation

/-- A position of the grid. -/
def place (row col : Nat) : Except Trap Position :=
  match Position.at? row col with
  | some p => pure p
  | none => throw .offGrid

/-- A block of the grid. -/
def block (top left bottom right : Nat) : Except Trap Block :=
  if h : ((1 ≤ top ∧ top ≤ bottom) ∧ (1 ≤ left ∧ left ≤ right)) ∧
      bottom ≤ maxRows ∧ right ≤ maxColumns then
    pure ⟨top, left, bottom, right, h.1.1, h.1.2, h.2.1, h.2.2⟩
  else throw .offGrid

/-- An item that is there is found. -/
theorem itemAt_eq {xs : List α} {i : Nat} {x : α} (h : xs[i]? = some x) : itemAt xs i = pure x := by
  rw [itemAt, h]

theorem removeAt_eq {xs : List α} {i : Nat} (h : i < xs.length) :
    removeAt xs i = pure (xs.eraseIdx i) :=
  if_pos h

/-- A sum that fits 32 bits is worked out. -/
theorem add32_eq {a b : Nat} (h : a + b ≤ Text.max32) : add32 a b = pure (a + b) :=
  if_pos h

/-- A product that fits 64 bits is worked out. -/
theorem mul64_eq {a b : Nat} (h : a * b ≤ Text.max64) : mul64 a b = pure (a * b) :=
  if_pos h

/-- What is there can be taken away. -/
theorem sub_eq {a b : Nat} (h : b ≤ a) : sub a b = pure (a - b) :=
  if_pos h

theorem to32_eq {n : Nat} (h : n ≤ Text.max32) : to32 n = pure n :=
  if_pos h

/-- A row and a column of the grid make a position. -/
theorem place_eq {row col : Nat} {p : Position} (h : Position.at? row col = some p) :
    place row col = pure p := by
  rw [place, h]

/-- The edges of a block make that block. -/
theorem block_eq (b : Block) : block b.top b.left b.bottom b.right = pure b :=
  dif_pos ⟨⟨b.rows_ordered, b.columns_ordered⟩, b.rows_within, b.columns_within⟩

/-- A list is gone through without a trap if no item of it traps. -/
theorem mapM_eq {f : α → Except Trap β} {g : α → β} {as : List α} (h : ∀ a ∈ as, f a = pure (g a)) :
    as.mapM f = pure (as.map g) := by
  induction as with
  | nil => rfl
  | cons a as ih =>
    rw [List.mapM_cons, h a List.mem_cons_self, ih fun b hb => h b (List.mem_cons_of_mem _ hb)]
    rfl

/-! ## Computations that can be refused -/

/-- A computation that traps, is refused or has a result. -/
abbrev Run (ε α : Type) : Type :=
  ExceptT ε (Except Trap) α

/-- A result or a refusal that is reached without a trap. -/
def reached (r : Except ε α) : Run ε α :=
  ExceptT.mk (pure r)

@[simp] theorem reached_pure (a : α) : (reached (pure a) : Run ε α) = pure a := rfl

@[simp] theorem reached_throw (e : ε) : (reached (throw e) : Run ε α) = throw e := rfl

/-- A computation reaches its result if its steps do, one after another. -/
@[simp] theorem reached_bind (r : Except ε α) (f : α → Except ε β) :
    reached (r >>= f) = reached r >>= fun a => reached (f a) := by
  cases r <;> rfl

@[simp] theorem reached_map (f : α → β) (r : Except ε α) : reached (f <$> r) = f <$> reached r := by
  cases r <;> rfl

/-- A step that does not trap, as part of a computation. -/
@[simp] theorem lift_pure (a : α) : (liftM (pure a : Except Trap α) : Run ε α) = pure a := rfl

/-! ## The numbers of the grid -/

/-- How many lines lie from a first to a last one. -/
def extent (first last : Nat) : Except Trap Nat := do
  add32 (← sub last first) 1

/-- The last of `n` lines from a first one on. -/
def lastOf (first n : Nat) : Except Trap Nat := do
  sub (← add32 first n) 1

/-- How many lines a span has. -/
def count (lines : Span) : Except Trap Nat :=
  extent lines.first lines.last

/-- How many rows a block has. -/
def height (b : Block) : Except Trap Nat :=
  extent b.top b.bottom

/-- How many columns a block has. -/
def width (b : Block) : Except Trap Nat :=
  extent b.left b.right

/-- How many cells a block has. -/
def size (b : Block) : Except Trap Nat := do
  mul64 (← height b) (← width b)

/-- The block of the same size as `b` whose first cell is `corner`, cut off at the edges of the
grid. -/
def moveTo (b : Block) (corner : Position) : Except Trap Block := do
  let bottom ← lastOf corner.row (← height b)
  let right ← lastOf corner.col (← width b)
  block corner.row corner.col (min bottom maxRows) (min right maxColumns)

end Trapping

/-! The grid has at least as many rows as columns, and far fewer of either than fit 32 bits. -/

namespace Grid

theorem le_maxRows_of_le_maxColumns {n : Nat} (h : n ≤ maxColumns) : n ≤ maxRows :=
  Nat.le_trans h (by decide)

/-- There are at least as many rows as columns. -/
theorem Axis.limit_le (axis : Axis) : axis.limit ≤ maxRows := by
  cases axis <;> decide

/-- The sum of two numbers of the grid fits 32 bits. -/
theorem add_le_max32 {a b : Nat} (ha : a ≤ maxRows) (hb : b ≤ maxRows) : a + b ≤ Text.max32 := by
  simp only [maxRows, Text.max32] at *
  omega

/-- Lines that are all on the grid are no more than it has. -/
theorem Span.count_le (lines : Span) : lines.count ≤ maxRows := by
  have := lines.ordered
  have := Nat.le_trans lines.within lines.axis.limit_le
  rw [count]
  omega

/-- A block is no higher than the grid. -/
theorem Block.height_le (b : Block) : b.height ≤ maxRows := by
  have := b.rows_ordered
  have := b.rows_within
  rw [height]
  omega

theorem Block.width_le (b : Block) : b.width ≤ maxColumns := by
  have := b.columns_ordered
  have := b.columns_within
  rw [width]
  omega

end Grid

namespace Trapping

/-- The number of lines from a first to a last one is worked out without a trap. -/
theorem extent_eq {first last : Nat} (h : first ≤ last) (hlast : last ≤ maxRows) :
    extent first last = pure (last - first + 1) := by
  rw [extent, sub_eq h, pure_bind]
  exact add32_eq (add_le_max32 (by omega) (by decide))

/-- The bounds of a span are needed for this. -/
example : extent 2 1 = throw .underflow := rfl

/-- So is the last of several lines behind a first one: the sum is made before one is taken away. -/
theorem lastOf_eq {first n : Nat} (hfirst : 1 ≤ first ∧ first ≤ maxRows) (hn : n ≤ maxRows) :
    lastOf first n = pure (first + n - 1) := by
  rw [lastOf, add32_eq (add_le_max32 hfirst.2 hn), pure_bind]
  exact sub_eq (by omega)

theorem count_eq (lines : Span) : count lines = pure lines.count :=
  extent_eq lines.ordered.2 (Nat.le_trans lines.within lines.axis.limit_le)

theorem height_eq (b : Block) : height b = pure b.height :=
  extent_eq b.rows_ordered.2 b.rows_within

theorem width_eq (b : Block) : width b = pure b.width :=
  extent_eq b.columns_ordered.2 (le_maxRows_of_le_maxColumns b.columns_within)

/-- The size of a block is the product of two numbers of the grid, which fits 64 bits. -/
theorem size_eq (b : Block) : size b = pure b.size := by
  rw [size, height_eq, pure_bind, width_eq, pure_bind]
  exact mul64_eq (Nat.le_trans (Nat.mul_le_mul b.height_le b.width_le) (by decide))

/-- A block is moved to another corner, as far as the grid goes. -/
theorem moveTo_eq (b : Block) (corner : Position) : moveTo b corner = pure (b.moveTo corner) := by
  have hbottom := lastOf_eq corner.row_mem b.height_le
  have hright := lastOf_eq ⟨corner.col_mem.1, le_maxRows_of_le_maxColumns corner.col_mem.2⟩
    (le_maxRows_of_le_maxColumns b.width_le)
  rw [moveTo, height_eq, pure_bind, hbottom, pure_bind, width_eq, pure_bind, hright, pure_bind]
  exact block_eq (b.moveTo corner)

/-! ## Column letters -/

/-- One line less is less, also after it is divided. -/
theorem div_lt_of_sub_eq {n below : Nat} (hn : n ≠ 0) (h : sub n 1 = .ok below) :
    below / 26 < n := by
  rw [sub_eq (Nat.one_le_iff_ne_zero.mpr hn)] at h
  cases h
  omega

/-- The letters of a column; there are none for zero. -/
def columnLetters (n : Nat) : Except Trap (List Char) :=
  if hn : n = 0 then pure []
  else
    match h : sub n 1 with
    | .error trap => throw trap
    | .ok below =>
      have := div_lt_of_sub_eq hn h
      return (← columnLetters (below / 26)) ++ [letterOfDigit (below % 26 + 1)]
termination_by n

/-- The name of a column. -/
def columnName (n : Nat) : Except Trap String :=
  return String.ofList (← columnLetters n)

/-- One is only taken away where a letter is left, so the letters of a column are worked out. -/
theorem columnLetters_eq (n : Nat) : columnLetters n = pure (Grid.columnLetters n) := by
  induction n using Nat.strongRecOn with
  | ind n ih =>
    rcases Nat.eq_zero_or_pos n with rfl | hn
    · rw [columnLetters, dif_pos rfl, columnLetters_zero]
    · have hsub : sub n 1 = .ok (n - 1) := sub_eq hn
      rw [columnLetters, dif_neg (Nat.ne_of_gt hn), columnLetters_of_pos hn]
      split
      next trap h => rw [hsub] at h; cases h
      next below h =>
        rw [hsub] at h
        cases h
        rw [ih _ (by omega), pure_bind]

theorem columnName_eq (n : Nat) : columnName n = pure (Grid.columnName n) := by
  rw [columnName, columnLetters_eq]
  rfl

/-- A1 notation of a position. -/
def text (p : Position) : Except Trap String :=
  return String.ofList ((← columnLetters p.col) ++ Nat.toDigits 10 p.row)

/-- The text of a position is worked out without a trap. -/
theorem text_eq (p : Position) : text p = pure p.text := by
  rw [text, columnLetters_eq]
  rfl

end Trapping

end SheetScript
