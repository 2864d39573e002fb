import SheetScript.Command.Basic

/-!
# Undo history

A history is a bounded stack of batches, each of which undoes one executed batch. When it is full, the
oldest batches go.

- `History.withDepth`: an empty history; its depth is at least one.
- `History.push`, `History.pop?`, `History.peek?`: the stack.
- `History.setDepth`: another bound.
-/

namespace SheetScript

/-- A bounded stack of batches, oldest first. -/
@[ext] structure History where
  depth : Nat
  batches : List (List Command)
deriving DecidableEq, Repr

namespace History

/-- The number of batches that are kept by default. -/
def defaultDepth : Nat := 20

/-- An empty history. A depth of zero counts as one. -/
def withDepth (depth : Nat) : History :=
  ⟨max depth 1, []⟩

/-- An empty history with the default depth. -/
def new : History :=
  withDepth defaultDepth

/-- Drop the oldest batches that are too many. -/
def trimmed (h : History) : History :=
  { h with batches := h.batches.drop (h.batches.length - h.depth) }

/-- Record a batch. An empty batch is ignored. -/
def push (h : History) (batch : List Command) : History :=
  if batch = [] then h else { h with batches := h.batches ++ [batch] }.trimmed

/-- The newest batch, and the history without it. -/
def pop? (h : History) : Option (List Command × History) :=
  h.batches.getLast?.map fun batch => (batch, { h with batches := h.batches.dropLast })

/-- The newest batch. -/
def peek? (h : History) : Option (List Command) :=
  h.batches.getLast?

/-- Change the bound. A depth of zero counts as one. -/
def setDepth (h : History) (depth : Nat) : History :=
  { h with depth := max depth 1 }.trimmed

/-- The history without its batches. -/
def clear (h : History) : History :=
  { h with batches := [] }

end History

end SheetScript
