import SheetScript.Proofs.RowMacros

/-!
# What lines are expanded to

A line that is no row macro stands for itself. A row macro stands for one command with the reason why
it cannot be carried out, or for commands on whole rows of the grid, and these run through on every
workbook with a sheet.

- `Expansion`: what a kind with arguments stands for; `expansion_expand` says that there is nothing
  else, with `Expansion.withRows` for the three macros.
- `RunsOnSheets`: commands that take effect one after the other wherever there is a sheet.
- `Expansion.failure_or_runsOnSheets`: what comes of a row macro.
-/

namespace SheetScript

open Grid

/-- Why a row macro cannot be expanded. -/
def RowMacro.reasons : List String :=
  ["Invalid row numbers", "MOVE_ROW requires source and target rows",
    "COPY_ROW requires source and target rows", "SWAP_ROWS requires two row numbers"]

/-- What a kind with arguments stands for. -/
inductive Expansion (kind : Kind) (args : List String) (label : String) : List Command → Prop
  | same (unexpanded : kind.isMacro = false) : Expansion kind args label [⟨kind, args, label⟩]
  | failure {reason : String} (known : reason ∈ RowMacro.reasons) :
      Expansion kind args label [.failure reason label]
  | move {source target : Nat} {after : Bool} {cs : List Command}
      (hsource : 1 ≤ source ∧ source ≤ maxRows) (htarget : 1 ≤ target ∧ target ≤ maxRows)
      (hmove : RowMacro.moveRow? source target after = some cs) : Expansion kind args label cs
  | copy {source target : Nat} (hsource : 1 ≤ source ∧ source ≤ maxRows)
      (htarget : 1 ≤ target ∧ target ≤ maxRows) :
      Expansion kind args label [RowMacro.copyRowTo source target label]
  | swap {a b : Nat} {cs : List Command} (ha : 1 ≤ a ∧ a ≤ maxRows) (hb : 1 ≤ b ∧ b ≤ maxRows)
      (hswap : RowMacro.swapRows? a b = some cs) : Expansion kind args label cs

section

variable {kind : Kind} {args rows : List String} {label : String}

/-- A macro with two row arguments fails, or its rows are on the grid and stand for some commands. -/
theorem Expansion.withRows {tooFew : String} (hfew : tooFew ∈ RowMacro.reasons)
    {commands? : Nat → Nat → List String → Option (List Command)}
    (h : ∀ m n rest cs, 1 ≤ m ∧ m ≤ maxRows → 1 ≤ n ∧ n ≤ maxRows →
      commands? m n rest = some cs → Expansion kind args label cs) :
    Expansion kind args label (RowMacro.withRows rows label tooFew commands?) := by
  have hinvalid : Expansion kind args label [.failure "Invalid row numbers" label] :=
    .failure (by decide)
  rcases rows with _ | ⟨first, _ | ⟨second, rest⟩⟩
  · exact .failure hfew
  · exact .failure hfew
  · rw [RowMacro.withRows]
    cases hm : RowMacro.rowNumber? first with
    | none => exact hinvalid
    | some m =>
      cases hn : RowMacro.rowNumber? second with
      | none => exact hinvalid
      | some n =>
        cases hcs : commands? m n rest with
        | none => simpa [hcs] using hinvalid
        | some cs =>
          simpa [hcs] using
            h m n rest cs (RowMacro.rowNumber?_mem hm) (RowMacro.rowNumber?_mem hn) hcs

end

theorem expand_of_unexpanded {kind : Kind} (h : kind.isMacro = false) (args : List String)
    (label : String) : expand kind args label = [⟨kind, args, label⟩] := by
  rw [expand.eq_def]
  split
  next => exact absurd h (by decide)
  next => exact absurd h (by decide)
  next => exact absurd h (by decide)
  next => rfl

/-- A line stands for one of these and for nothing else. -/
theorem expansion_expand (kind : Kind) (args : List String) (label : String) :
    Expansion kind args label (expand kind args label) := by
  rw [expand.eq_def]
  split
  next => exact .withRows (by decide) fun _ _ _ _ hsource htarget hcs => .move hsource htarget hcs
  next =>
    refine .withRows (by decide) fun _ _ _ _ hsource htarget hcs => ?_
    cases hcs
    exact .copy hsource htarget
  next => exact .withRows (by decide) fun _ _ _ _ ha hb hcs => .swap ha hb hcs
  next hmove hcopy hswap =>
    refine .same ?_
    cases kind with
    | verb v =>
      cases v with
      | moveRow => exact absurd rfl hmove
      | copyRow => exact absurd rfl hcopy
      | swapRows => exact absurd rfl hswap
      | _ => rfl
    | failed => rfl
    | unknown name => rfl

/-- A line stands for at least one command. -/
theorem Expansion.ne_nil {kind : Kind} {args : List String} {label : String} {cs : List Command}
    (h : Expansion kind args label cs) : cs ≠ [] := by
  cases h with
  | same _ | failure _ | copy _ _ => simp
  | move hsource htarget hmove =>
    obtain ⟨-, -, l₁, l₂, l₃, rfl⟩ := RowMacro.moveRow?_eq_some hsource.2 htarget.2 hmove
    simp
  | swap _ _ hswap =>
    obtain ⟨-, l₁, l₂, l₃, l₄, l₅, rfl⟩ := RowMacro.swapRows?_eq_some hswap
    simp

/-! ## Row macros that run -/

/-- Some commands take effect one after the other on every workbook with a sheet. -/
def RunsOnSheets (cs : List Command) : Prop :=
  ∀ (limit : Option Nat) (w : Workbook), w.sheets ≠ [] →
    ∃ inverse w', RunsThrough Workbook.host limit cs w inverse w'

variable {kind : Kind} {args : List String} {label : String} {cs : List Command}

theorem RunsOnSheets.read (h : RunsOnSheets cs) : ∀ c ∈ cs, ∃ op, Operation.decode c = .ok op := by
  -- a command that takes effect has been understood, and there is a workbook with a sheet
  obtain ⟨inverse, w', hruns⟩ := h none .new (by decide)
  exact hruns.read

/-- A row macro stands for its failure, or for commands that run on every workbook with a sheet. -/
theorem Expansion.failure_or_runsOnSheets (h : Expansion kind args label cs)
    (hkind : kind.isMacro = true) :
    (∃ reason, cs = [.failure reason label]) ∨ RunsOnSheets cs := by
  cases h with
  | same unexpanded =>
    rw [hkind] at unexpanded
    cases unexpanded
  | failure known => exact Or.inl ⟨_, rfl⟩
  | @move source target after cs hs ht hcs =>
    refine Or.inr fun limit w hw => ?_
    obtain ⟨s, hactive⟩ := Workbook.exists_activeSheet? hw
    obtain ⟨hinsert, hpushed, l₁, l₂, l₃, rfl⟩ := RowMacro.moveRow?_eq_some hs.2 ht.2 hcs
    exact ⟨_, _, RowMacro.runsThrough_move hactive ⟨one_le_insertionRow ht.1, hinsert⟩
      ⟨one_le_pushedRow hs.1, hpushed⟩ l₁ l₂ l₃⟩
  | copy hs ht =>
    refine Or.inr fun limit w hw => ?_
    obtain ⟨s, hactive⟩ := Workbook.exists_activeSheet? hw
    exact ⟨_, _, .single (Command.runs_copyRow limit hactive hs ht label)⟩
  | @swap a b cs ha hb hcs =>
    refine Or.inr fun limit w hw => ?_
    obtain ⟨s, hactive⟩ := Workbook.exists_activeSheet? hw
    obtain ⟨hscratch, l₁, l₂, l₃, l₄, l₅, rfl⟩ := RowMacro.swapRows?_eq_some hcs
    exact ⟨_, _, RowMacro.runsThrough_swap hactive ha hb ⟨by omega, hscratch⟩ l₁ l₂ l₃ l₄ l₅⟩

end SheetScript
