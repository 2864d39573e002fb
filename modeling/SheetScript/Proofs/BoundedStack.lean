import Mathlib.Data.List.Infix
import SheetScript.Proofs.Batches

/-!
# The history as a stack

A history is a stack that forgets its oldest batches. It is compared with a stack that forgets nothing
and has the same things done to it: what the history holds are the newest batches of that stack, so
nothing is taken off the history that the other one would not give.

- `length_push_le`, `mem_push`, `push_eq`: what is held after a batch is recorded.
- `setDepth_eq_self`: a history within its bound is not changed by setting that bound again.
- `HistoryAction`, `History.after`, `stackAfter`: what can be done, to a history and to a stack without
  bound.
- `History.Refines`: how the two are related; `Refines.run` keeps this.
- `History.refines_after`: they are so related after anything was done, and take off the same.
-/

namespace SheetScript

namespace History

variable {h : History} {batch b : List Command} {u : List (List Command)}

/-! ## Cutting to the bound -/

/-- What is left are the newest batches. -/
theorem trimmed_suffix (h : History) : h.trimmed.batches <:+ h.batches :=
  List.drop_suffix _ _

theorem length_trimmed_le (h : History) : h.trimmed.batches.length ≤ h.depth := by
  show (h.batches.drop (h.batches.length - h.depth)).length ≤ h.depth
  rw [List.length_drop]
  omega

theorem trimmed_eq_self (hlength : h.batches.length ≤ h.depth) : h.trimmed = h := by
  rw [trimmed, Nat.sub_eq_zero_of_le hlength, List.drop_zero]

/-- A history within its bound is not changed by setting that bound again. -/
theorem setDepth_eq_self {n : Nat} (hdepth : h.depth = max n 1)
    (hlength : h.batches.length ≤ h.depth) : h.setDepth n = h := by
  rw [setDepth, ← hdepth]
  exact trimmed_eq_self hlength

/-! ## Recording -/

theorem length_push_le (hlength : h.batches.length ≤ h.depth) (batch : List Command) :
    (h.push batch).batches.length ≤ h.depth := by
  rw [push]
  split
  · exact hlength
  · exact length_trimmed_le _

theorem push_suffix (hne : batch ≠ []) : (h.push batch).batches <:+ h.batches ++ [batch] := by
  rw [push, if_neg hne]
  exact trimmed_suffix _

/-- What is held was held before, or was recorded just now. -/
theorem mem_push (hb : b ∈ (h.push batch).batches) : b ∈ h.batches ∨ b = batch ∧ batch ≠ [] := by
  by_cases hne : batch = []
  · rw [push, if_pos hne] at hb
    exact Or.inl hb
  · have hmem := (push_suffix hne).mem hb
    rw [List.mem_append, List.mem_singleton] at hmem
    exact hmem.imp_right fun heq => ⟨heq, hne⟩

/-- Recording a batch drops the oldest one if there is no room, and none otherwise. -/
theorem push_eq (hpos : 1 ≤ h.depth) (hlength : h.batches.length ≤ h.depth) (batch : List Command) :
    h.push batch =
      if batch = [] then h
      else if h.batches.length < h.depth then { h with batches := h.batches ++ [batch] }
      else { h with batches := h.batches.tail ++ [batch] } := by
  rw [push]
  split
  · rfl
  split
  next hroom =>
    refine trimmed_eq_self ?_
    simp only [List.length_append, List.length_singleton]
    omega
  next hfull =>
    have hdrop : (h.batches ++ [batch]).length - h.depth = 1 := by
      simp only [List.length_append, List.length_singleton]
      omega
    have hlong : 1 ≤ h.batches.length := by omega
    simp only [trimmed, hdrop]
    rw [List.drop_append_of_le_length hlong, List.drop_one]

end History

/-! ## Histories and stacks without bound -/

/-- What can be done with a history. -/
inductive HistoryAction where
  | push (batch : List Command)
  | pop
  | peek
  | setDepth (depth : Nat)
  | clear
deriving DecidableEq, Repr

namespace HistoryAction

/-- The batch that an action gives, if it gives one, and the history after it. -/
def run : HistoryAction → History → Option (List Command) × History
  | push batch, h => (none, h.push batch)
  | pop, h =>
    match h.pop? with
    | some (batch, rest) => (some batch, rest)
    | none => (none, h)
  | peek, h => (h.peek?, h)
  | setDepth depth, h => (none, h.setDepth depth)
  | clear, h => (none, h.clear)

/-- The same for a stack without bound, the newest batch last. An empty batch is not put on it, and
there is no depth to set. -/
def runOnStack : HistoryAction → List (List Command) → Option (List Command) × List (List Command)
  | push batch, u => (none, if batch = [] then u else u ++ [batch])
  | pop, u => (u.getLast?, u.dropLast)
  | peek, u => (u.getLast?, u)
  | setDepth _, u => (none, u)
  | clear, _ => (none, [])

end HistoryAction

/-- A stack without bound after some actions. -/
def stackAfter : List HistoryAction → List (List Command) → List (List Command)
  | [], u => u
  | action :: actions, u => stackAfter actions (action.runOnStack u).2

namespace History

/-- A history after some actions. -/
def after : List HistoryAction → History → History
  | [], h => h
  | action :: actions, h => after actions (action.run h).2

/-- A history holds the newest batches of a stack, as far as it has room. -/
structure Refines (h : History) (u : List (List Command)) : Prop where
  depth_pos : 1 ≤ h.depth
  length_le : h.batches.length ≤ h.depth
  ne_nil : ∀ batch ∈ h.batches, batch ≠ []
  newest : h.batches <:+ u

theorem refines_withDepth (n : Nat) : (withDepth n).Refines [] where
  depth_pos := Nat.le_max_right n 1
  length_le := Nat.zero_le _
  ne_nil := by simp [withDepth]
  newest := List.nil_suffix

variable {h : History} {u : List (List Command)}

/-- What a history gives, its stack would give. -/
theorem getLast?_eq_of_suffix (hnewest : h.batches <:+ u) :
    h.batches.getLast? = if h.batches = [] then none else u.getLast? := by
  split
  next hnil => rw [hnil, List.getLast?_nil]
  next hne =>
    obtain ⟨old, rfl⟩ := hnewest
    rw [List.getLast?_append_of_ne_nil _ hne]

/-- Taking off keeps what is held at the end of the stack, also when the history is used up and the
stack is not. -/
theorem dropLast_suffix (hnewest : h.batches <:+ u) : h.batches.dropLast <:+ u.dropLast := by
  obtain ⟨old, rfl⟩ := hnewest
  by_cases hnil : h.batches = []
  · rw [hnil]
    exact List.nil_suffix
  · rw [List.dropLast_append_of_ne_nil hnil]
    exact List.suffix_append _ _

theorem run_pop (h : History) :
    HistoryAction.pop.run h = (h.batches.getLast?, { h with batches := h.batches.dropLast }) := by
  rw [HistoryAction.run, pop?]
  cases hlast : h.batches.getLast? with
  | some batch => rfl
  | none =>
    rw [List.getLast?_eq_none_iff] at hlast
    show (none, h) = (none, { h with batches := h.batches.dropLast })
    rw [hlast, List.dropLast_nil, ← hlast]

namespace Refines

/-- Some of the newest batches may be forgotten. -/
theorem trimmed (hr : h.Refines u) {depth : Nat} (hpos : 1 ≤ depth) :
    { h with depth }.trimmed.Refines u where
  depth_pos := hpos
  length_le := length_trimmed_le _
  ne_nil := fun _ hb => hr.ne_nil _ ((trimmed_suffix _).mem hb)
  newest := (trimmed_suffix _).trans hr.newest

/-- Every action keeps the relation. -/
theorem run (hr : h.Refines u) (action : HistoryAction) :
    (action.run h).2.Refines (action.runOnStack u).2 := by
  cases action with
  | push batch =>
    show (h.push batch).Refines (if batch = [] then u else u ++ [batch])
    by_cases hne : batch = []
    · rw [History.push, if_pos hne, if_pos hne]
      exact hr
    · rw [if_neg hne]
      obtain ⟨old, hold⟩ := hr.newest
      constructor
      · rw [depth_push]
        exact hr.depth_pos
      · rw [depth_push]
        exact length_push_le hr.length_le batch
      · intro b hb
        rcases mem_push hb with hb | ⟨rfl, hb⟩
        · exact hr.ne_nil b hb
        · exact hb
      · refine (push_suffix hne).trans ?_
        rw [← hold, List.append_assoc]
        exact List.suffix_append _ _
  | pop =>
    rw [run_pop]
    exact {
      depth_pos := hr.depth_pos
      length_le := (List.dropLast_prefix _).length_le.trans hr.length_le
      ne_nil := fun _ hb => hr.ne_nil _ (List.mem_of_mem_dropLast hb)
      newest := dropLast_suffix hr.newest }
  | peek => exact hr
  | setDepth depth => exact hr.trimmed (Nat.le_max_right depth 1)
  | clear =>
    exact {
      depth_pos := hr.depth_pos
      length_le := Nat.zero_le _
      ne_nil := by simp [HistoryAction.run, History.clear]
      newest := List.nil_suffix }

/-- Any number of actions keep the relation. -/
theorem after (hr : h.Refines u) (actions : List HistoryAction) :
    (History.after actions h).Refines (stackAfter actions u) := by
  induction actions generalizing h u with
  | nil => exact hr
  | cons action actions ih => exact ih (hr.run action)

end Refines

/-- A new history of any depth and a stack without bound have the same things done to them. Then the
history holds the newest batches of the stack, as many as its depth allows at most, and none is empty.
A batch more drops the oldest one if the history is full, and nothing else; what is taken off or looked
at is what the stack gives, unless all that was held is used up. -/
theorem refines_after (n : Nat) (actions : List HistoryAction) :
    let h := after actions (withDepth n)
    let u := stackAfter actions []
    h.Refines u ∧
      (∀ batch, ((HistoryAction.push batch).run h).2 =
        if batch = [] then h
        else if h.batches.length < h.depth then { h with batches := h.batches ++ [batch] }
        else { h with batches := h.batches.tail ++ [batch] }) ∧
      (HistoryAction.pop.run h).1 =
        (if h.batches = [] then none else (HistoryAction.pop.runOnStack u).1) ∧
      (HistoryAction.peek.run h).1 =
        if h.batches = [] then none else (HistoryAction.peek.runOnStack u).1 := by
  intro h u
  have hr : h.Refines u := (refines_withDepth n).after actions
  have hlast := getLast?_eq_of_suffix hr.newest
  refine ⟨hr, fun batch => push_eq hr.depth_pos hr.length_le batch, ?_, hlast⟩
  rw [run_pop]
  exact hlast

end History

end SheetScript
