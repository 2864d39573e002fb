import Mathlib.Order.Compare
import SheetScript.Sheet.Sort

/-!
# The order of sort keys

The order of two texts in a sort is turned round with them, no text differs from itself, and all texts
but one kind stand in a chain. Those that read as not-a-number are level with every number, so they tie
numbers together that are not level with each other.

- `Binary64.order_swap`, `Binary64.order_trans`: the order of values, not-a-number in the middle apart.
- `SortKey.order_swap`, `SortKey.order_self`, `SortKey.order_trans`: the order of keys.
- `SortKey.order_cycle_iff`: where the order of keys is not transitive.
- `compareKeys_laws`: the laws for texts.
-/

namespace SheetScript

/-! ## Values -/

namespace Number.Binary64

variable {x y z : Binary64}

/-- Two numbers compare the other way round from the other side, and not-a-number is level from both. -/
theorem order_swap (x y : Binary64) : x.order y = (y.order x).swap := by
  cases x with
  | finite m =>
    cases y with
    | finite n => exact Std.OrientedOrd.eq_swap
    | nan | negInf | posInf => rfl
  | nan | negInf | posInf => cases y <;> rfl

theorem order_self (x : Binary64) : x.order x = .eq := by
  cases x with
  | finite n => exact Std.compare_self
  | nan | negInf | posInf => rfl

/-- Values are in a chain unless the one in the middle is not-a-number. -/
theorem order_trans (hy : y ≠ .nan) (hxy : x.order y ≠ .gt) (hyz : y.order z ≠ .gt) :
    x.order z ≠ .gt := by
  cases y with
  | nan => exact absurd rfl hy
  | negInf =>
    cases x with
    | nan | negInf => cases z <;> exact nofun
    | finite | posInf => exact absurd rfl hxy
  | posInf =>
    cases z with
    | nan | posInf => cases x <;> exact nofun
    | finite | negInf => exact absurd rfl hyz
  | finite n =>
    cases x with
    | nan | negInf => cases z <;> exact nofun
    | posInf => exact absurd rfl hxy
    | finite m =>
      cases z with
      | nan | posInf => exact nofun
      | negInf => exact absurd rfl hyz
      | finite k =>
        have hmn : compare m n ≠ .gt := hxy
        have hnk : compare n k ≠ .gt := hyz
        show compare m k ≠ .gt
        exact Std.TransCmp.le_trans hmn hnk

end Number.Binary64

/-! ## Keys -/

namespace SortKey

open Number

variable {ascending : Bool} {x y z : SortKey}

/-- So do any two keys. -/
theorem ascendingOrder_swap (x y : SortKey) : ascendingOrder x y = (ascendingOrder y x).swap := by
  cases x with
  | number m =>
    cases y with
    | number n => exact Binary64.order_swap m n
    | text | blank => rfl
  | text s =>
    cases y with
    | text t => exact Std.OrientedOrd.eq_swap
    | number | blank => rfl
  | blank => cases y <;> rfl

/-- Keys other than blanks are in a chain unless the one in the middle is not-a-number. -/
theorem ascendingOrder_trans (hx : x ≠ .blank) (hy : y ≠ .blank) (hnan : y ≠ .number .nan)
    (hxy : ascendingOrder x y ≠ .gt) (hyz : ascendingOrder y z ≠ .gt) : ascendingOrder x z ≠ .gt := by
  cases y with
  | blank => exact absurd rfl hy
  | number n =>
    cases x with
    | blank => exact absurd rfl hx
    | text => exact absurd rfl hxy
    | number m =>
      cases z with
      | text | blank => exact nofun
      | number k => exact Binary64.order_trans (fun h => hnan (h ▸ rfl)) hxy hyz
  | text t =>
    cases z with
    | number => exact absurd rfl hyz
    | blank => cases x <;> exact nofun
    | text u =>
      cases x with
      | blank => exact absurd rfl hx
      | number => exact nofun
      | text s =>
        have hst : compare s t ≠ .gt := hxy
        have htu : compare t u ≠ .gt := hyz
        show compare s u ≠ .gt
        exact Std.TransCmp.le_trans hst htu

/-- The order of keys that are not blank, in either direction. -/
theorem order_of_ne_blank (hx : x ≠ .blank) (hy : y ≠ .blank) :
    order ascending x y = if ascending then ascendingOrder x y else ascendingOrder y x := by
  rw [ascendingOrder_swap y x]
  cases x with
  | blank => exact absurd rfl hx
  | number | text =>
    cases y with
    | blank => exact absurd rfl hy
    | number | text => rfl

/-- A blank key comes after any other, in both directions. -/
theorem order_blank_left (hy : y ≠ .blank) : order ascending .blank y = .gt := by
  cases y with
  | blank => exact absurd rfl hy
  | number | text => rfl

theorem order_blank_right (hx : x ≠ .blank) : order ascending x .blank = .lt := by
  cases x with
  | blank => exact absurd rfl hx
  | number | text => rfl

/-- The order of two keys is turned round with them. -/
theorem order_swap (ascending : Bool) (x y : SortKey) :
    order ascending x y = (order ascending y x).swap := by
  by_cases hx : x = .blank <;> by_cases hy : y = .blank
  · rw [hx, hy]
    rfl
  · rw [hx, order_blank_left hy, order_blank_right hy]
    rfl
  · rw [hy, order_blank_left hx, order_blank_right hx]
    rfl
  · rw [order_of_ne_blank hx hy, order_of_ne_blank hy hx]
    cases ascending
    · exact ascendingOrder_swap y x
    · exact ascendingOrder_swap x y

theorem order_self (ascending : Bool) (x : SortKey) : order ascending x x = .eq := by
  cases ascending <;> cases x with
  | number n => simp [order, ascendingOrder, Binary64.order_self]
  | text s => simp [order, ascendingOrder]
  | blank => rfl

/-- Keys are in a chain, in either direction, unless the one in the middle is not-a-number. -/
theorem order_trans (hnan : y ≠ .number .nan) (hxy : order ascending x y ≠ .gt)
    (hyz : order ascending y z ≠ .gt) : order ascending x z ≠ .gt := by
  by_cases hz : z = .blank
  · by_cases hx : x = .blank
    · rw [hx, hz]
      exact nofun
    · rw [hz, order_blank_right hx]
      exact nofun
  -- nothing but a blank key is behind a blank key
  have hy : y ≠ .blank := fun hy => hyz (by rw [hy, order_blank_left hz])
  have hx : x ≠ .blank := fun hx => hxy (by rw [hx, order_blank_left hy])
  rw [order_of_ne_blank hx hy] at hxy
  rw [order_of_ne_blank hy hz] at hyz
  rw [order_of_ne_blank hx hz]
  cases ascending with
  | true => exact ascendingOrder_trans hx hy hnan hxy hyz
  | false => exact ascendingOrder_trans hz hy hnan hyz hxy

/-- The chain breaks exactly between two numbers with not-a-number between them. -/
theorem order_cycle_iff :
    (order ascending x y ≠ .gt ∧ order ascending y z ≠ .gt ∧ order ascending x z = .gt) ↔
      y = .number .nan ∧ ∃ m n, x = .number m ∧ z = .number n ∧
        m.order n = if ascending then .gt else .lt := by
  constructor
  · rintro ⟨hxy, hyz, hxz⟩
    have hy : y = .number .nan := by
      by_contra hy
      exact order_trans hy hxy hyz hxz
    subst hy
    refine ⟨rfl, ?_⟩
    cases x with
    | blank => exact absurd rfl hxy
    | number m =>
      cases z with
      | blank => cases hxz
      | number n =>
        refine ⟨m, n, rfl, rfl, ?_⟩
        cases ascending with
        | true => exact hxz
        | false => exact Ordering.swap_eq_gt.mp hxz
      | text t =>
        -- a text comes behind numbers in one direction and before them in the other
        cases ascending with
        | true => cases hxz
        | false => exact absurd rfl hyz
    | text s =>
      cases ascending with
      | true => exact absurd rfl hxy
      | false =>
        cases z with
        | text => exact absurd rfl hyz
        | number | blank => cases hxz
  · rintro ⟨rfl, m, n, rfl, rfl, horder⟩
    cases ascending with
    | true => exact ⟨by cases m <;> exact nofun, nofun, horder⟩
    | false => exact ⟨by cases m <;> exact nofun, nofun, Ordering.swap_eq_gt.mpr horder⟩

end SortKey

/-! ## Texts -/

/-- The number a text reads as when it is sorted, blanks around it left out. -/
def Number.Binary64.ofText? (s : String) : Option Number.Binary64 :=
  Number.Binary64.parse? (Text.trimChars s.toList)

/-- The key of a text is the number it reads as, if it reads as one. -/
theorem SortKey.ofText_eq_number_iff {s : String} {x : Number.Binary64} :
    SortKey.ofText s = .number x ↔ Number.Binary64.ofText? s = some x := by
  rw [SortKey.ofText, Number.Binary64.ofText?]
  by_cases hs : s = ""
  · -- the empty text reads as no number
    subst hs
    exact ⟨nofun, nofun⟩
  · rw [if_neg hs]
    cases Number.Binary64.parse? (Text.trimChars s.toList) with
    | none => exact ⟨nofun, nofun⟩
    | some y => rw [SortKey.number.injEq, Option.some.injEq]

/-- Turning two texts round turns their order round, a text is level with itself, and the order is
transitive on every three texts but these: two numbers in the wrong order with not-a-number between
them. -/
theorem compareKeys_laws (ascending : Bool) (s t u : String) :
    compareKeys ascending s t = (compareKeys ascending t s).swap ∧
      compareKeys ascending s s = .eq ∧
      ((compareKeys ascending s t ≠ .gt ∧ compareKeys ascending t u ≠ .gt ∧
          compareKeys ascending s u = .gt) ↔
        Number.Binary64.ofText? t = some .nan ∧
          ∃ m n, Number.Binary64.ofText? s = some m ∧ Number.Binary64.ofText? u = some n ∧
            m.order n = if ascending then .gt else .lt) := by
  refine ⟨SortKey.order_swap _ _ _, SortKey.order_self _ _, ?_⟩
  simp only [← SortKey.ofText_eq_number_iff]
  exact SortKey.order_cycle_iff

/-- `nan` is level with `2` and with `1`, and `2` comes after `1`. A column with these three texts is left
as it is by a sort. -/
theorem compareKeys_two_nan_one :
    compareKeys true "2" "nan" ≠ .gt ∧ compareKeys true "nan" "1" ≠ .gt ∧
      compareKeys true "2" "1" = .gt ∧
      stableSort (fun s t => compareKeys true s t == .lt) ["2", "nan", "1"] =
        ["2", "nan", "1"] := by
  decide +kernel

end SheetScript
