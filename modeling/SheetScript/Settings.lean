import SheetScript.History.Basic

/-!
# Settings

- `Settings`: how many batches can be undone, and how large a copied-over block may be to be restored.
-/

namespace SheetScript

/-- The settings of an editor. -/
structure Settings where
  /-- How many batches can be undone. -/
  undoDepth : Nat := History.defaultDepth
  /-- The target of a copy is recorded if it has at most this many used cells. Without a limit no copy
  is recorded. -/
  copyLimit : Option Nat := none
deriving DecidableEq, Repr

end SheetScript
