/-!
# Numerals

Row numbers, columns to sort by and sizes are written in decimal. Leading zeros are fine and there is
no upper limit on the number of digits, only on the value.

- `digits?`: the value of a nonempty run of ASCII digits.
- `numeral?`: the same with an optional plus sign and a greatest value.
- `digits?_repr`: reading the decimal form of a number gives the number.
-/

namespace SheetScript.Text

/-- The value of a nonempty run of ASCII digits. -/
def digits? (cs : List Char) : Option Nat :=
  if cs ≠ [] ∧ cs.all Char.isDigit then some (Nat.ofDigitChars 10 cs 0) else none

/-- The greatest value of a 32-bit numeral. -/
def max32 : Nat := 4294967295

/-- The greatest value of a 64-bit numeral. -/
def max64 : Nat := 18446744073709551615

/-- The value of a numeral with an optional plus sign, at most `limit`. -/
def numeral? (limit : Nat) (cs : List Char) : Option Nat :=
  let unsigned := match cs with
    | '+' :: rest => rest
    | _ => cs
  (digits? unsigned).filter (· ≤ limit)

/-- Reading the decimal form of a number gives the number. -/
@[simp] theorem digits?_toDigits (n : Nat) : digits? (Nat.toDigits 10 n) = some n := by
  have hall : (Nat.toDigits 10 n).all Char.isDigit := by
    rw [List.all_eq_true]
    exact fun c hc => Nat.isDigit_of_mem_toDigits (by decide) (by decide) hc
  simp [digits?, hall, Nat.toDigits_ne_nil, Nat.ofDigitChars_ten_toDigits]

theorem digits?_repr (n : Nat) : digits? n.repr.toList = some n := by
  rw [Nat.toList_repr, digits?_toDigits]

end SheetScript.Text
