import SheetScript.Number.Binary64

/-!
# Short numerals

A double is written with the fewest digits that read back as the same double. The reals that round to
a double form an interval around it, so the task is to find the coarsest decimal grid with a point in
that interval. All comparisons are made on whole numbers, in quarters of a unit of `2 ^ -1074`.

- `Decimal`: digits with a power of ten.
- `roundsTo`: whether a decimal rounds to a double.
- `shortest`: the decimal with the fewest digits that does, and the nearest of those.
- `numeral`: the text of a double.
-/

namespace SheetScript.Number

/-- The number `digits * 10 ^ exponent`. -/
structure Decimal where
  digits : Nat
  exponent : Int
deriving DecidableEq, Repr

/-- The distance in units from a double to the next larger one. -/
def spacing (units : Nat) : Nat :=
  1 <<< (units.log2 + 1 - 53)

/-- Whether the next smaller double is only half as far away as the next larger one. -/
def isNarrowBelow (units : Nat) : Bool :=
  1 < spacing units && units == 1 <<< units.log2

/-- A decimal in quarters of a unit, as a fraction. -/
def Decimal.quarters (d : Decimal) : Nat × Nat :=
  ((4 * d.digits * Nat.pow 10 d.exponent.toNat) <<< 1074, Nat.pow 10 (-d.exponent).toNat)

/-- Whether a decimal rounds to a double. The ends of the interval belong to it if the last bit of the
double is zero. -/
def roundsTo (units : Nat) (d : Decimal) : Bool :=
  let (num, den) := d.quarters
  let low := 4 * units - (if isNarrowBelow units then 1 else 2) * spacing units
  let high := 4 * units + 2 * spacing units
  let isEven := units / spacing units % 2 == 0
  (low * den < num || (isEven && low * den == num)) &&
    (num < high * den || (isEven && num == high * den))

/-- How many digits a positive double has before the point, or minus the zeros behind it. -/
def magnitude (units : Nat) : Int :=
  (Nat.toDigits 10 ((units * Nat.pow 10 330) >>> 1074)).length - 330

/-- The points of a decimal grid on either side of a double, the nearer one first. -/
def neighbours (units : Nat) (exponent : Int) : List Decimal :=
  let num := units * Nat.pow 10 (-exponent).toNat
  let den := (Nat.pow 10 exponent.toNat) <<< 1074
  let below : Decimal := ⟨num / den, exponent⟩
  let above : Decimal := ⟨num / den + 1, exponent⟩
  let rest := 2 * (num % den)
  if rest < den || (rest == den && below.digits % 2 == 0) then [below, above] else [above, below]

/-- The decimal with the fewest digits that rounds to a positive double, and the nearest of those.
Seventeen digits are always enough. -/
def shortest (units : Nat) : Decimal :=
  let grids := (List.range 17).map fun n => magnitude units - (n + 1 : Nat)
  let found := grids.findSome? fun e => (neighbours units e).find? (roundsTo units)
  found.getD ⟨units * Nat.pow 5 1074, -1074⟩

/-- The digits of a decimal without zeros at the end. -/
def Decimal.text (d : Decimal) : List Char :=
  ((Nat.toDigits 10 d.digits).reverse.dropWhile (· == '0')).reverse

/-- Digits with a point before the one at `place`. Where there are no digits there are zeros, and there
is one digit at least on either side of the point. -/
def withPoint (digits : List Char) (place : Int) : List Char :=
  let zeros (n : Int) : List Char := List.replicate n.toNat '0'
  if place ≤ 0 then "0.".toList ++ zeros (-place) ++ digits
  else if digits.length ≤ place then digits ++ zeros (place - digits.length) ++ ".0".toList
  else digits.take place.toNat ++ '.' :: digits.drop place.toNat

/-- Digits with a point behind the first one and an exponent. -/
def withExponent (digits : List Char) (exponent : Int) : List Char :=
  let fraction := if digits.length ≤ 1 then [] else '.' :: digits.drop 1
  let sign := if exponent < 0 then '-' else '+'
  digits.take 1 ++ fraction ++ 'e' :: sign :: Nat.toDigits 10 exponent.natAbs

/-- The text of the double `units * 2 ^ -1074`. Numbers from `1e-5` to below `1e16` have a point, all
others an exponent. -/
def numeral (negative : Bool) (units : Nat) : String :=
  let decimal := shortest units
  let digits := decimal.text
  let place := (Nat.toDigits 10 decimal.digits).length + decimal.exponent
  let unsigned :=
    if units = 0 then "0.0".toList
    else if -5 < place ∧ place ≤ 16 then withPoint digits place
    else withExponent digits (place - 1)
  String.ofList (if negative then '-' :: unsigned else unsigned)

end SheetScript.Number
