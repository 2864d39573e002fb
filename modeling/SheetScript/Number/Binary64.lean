/-!
# Numbers in double precision

A text that reads as a number is sorted by its value in double precision. A finite value is a whole
number of units of `2 ^ -1074`, the smallest positive double, so it can be held exactly as an integer.

- `Binary64`: the doubles, with both zeros taken together and all not-a-numbers taken together.
- `roundUnits`: the nearest double to a positive fraction, ties to the even one.
- `Binary64.parse?`: the grammar of numerals. There are the words `inf`, `infinity` and `nan` in any
  case, and decimal numerals with an optional point and an optional exponent.
- `Binary64.order`: the order of values; not-a-number is level with everything.
-/

namespace SheetScript.Number

/-- A value in double precision; `finite n` is `n * 2 ^ -1074`. -/
inductive Binary64 where
  | nan
  | negInf
  | finite (units : Int)
  | posInf
deriving DecidableEq, Repr

/-- The fraction `num / den` in units of `2 ^ -1074`, rounded to 53 significant bits. A tie goes to
the even neighbour. -/
def roundUnits (num den : Nat) : Nat :=
  let scaled := num <<< 1074
  let excess := (scaled / den).log2 + 1 - 53
  let step := den <<< excess
  let whole := scaled / step
  let rest := scaled % step
  let rounded :=
    if step < 2 * rest ∨ (2 * rest = step ∧ whole % 2 = 1) then whole + 1 else whole
  rounded <<< excess

/-- The least number of units that is too large for a finite double. -/
def infiniteUnits : Nat := 1 <<< 2098

namespace Binary64

/-- The double nearest to a magnitude given in units, with a sign. -/
def ofUnits (negative : Bool) (units : Nat) : Binary64 :=
  if units < infiniteUnits then .finite (if negative then -(units : Int) else units)
  else if negative then .negInf else .posInf

/-- The double nearest to `mantissa * 10 ^ exponent`. Magnitudes that are clearly out of range are
settled by their number of digits. -/
def ofDecimal (negative : Bool) (mantissa : Nat) (exponent : Int) : Binary64 :=
  let magnitude := (Nat.toDigits 10 mantissa).length + exponent
  if mantissa = 0 ∨ magnitude < -330 then .finite 0
  else if 310 < magnitude then ofUnits negative infiniteUnits
  else if 0 ≤ exponent then ofUnits negative (roundUnits (mantissa * Nat.pow 10 exponent.toNat) 1)
  else ofUnits negative (roundUnits mantissa (Nat.pow 10 (-exponent).toNat))

/-- An optional sign, and what follows it. -/
def splitSign : List Char → Bool × List Char
  | '-' :: cs => (true, cs)
  | '+' :: cs => (false, cs)
  | cs => (false, cs)

/-- The exponent after the mantissa: nothing, or a letter `e` with a signed number. -/
def exponent? : List Char → Option Int
  | [] => some 0
  | c :: cs =>
    if c = 'e' ∨ c = 'E' then
      let (negative, digits) := splitSign cs
      if digits ≠ [] ∧ digits.all Char.isDigit then
        let n : Nat := Nat.ofDigitChars 10 digits 0
        some (if negative then -(n : Int) else n)
      else none
    else none

/-- The value of an unsigned decimal numeral. There is at least one digit before or after the
point. -/
def decimal? (negative : Bool) (cs : List Char) : Option Binary64 :=
  let whole := cs.takeWhile Char.isDigit
  let (fraction, rest) := match cs.dropWhile Char.isDigit with
    | '.' :: after => (after.takeWhile Char.isDigit, after.dropWhile Char.isDigit)
    | rest => ([], rest)
  if whole ++ fraction = [] then none
  else
    (exponent? rest).map fun e =>
      ofDecimal negative (Nat.ofDigitChars 10 (whole ++ fraction) 0) (e - fraction.length)

/-- The value a numeral stands for. -/
def parse? (cs : List Char) : Option Binary64 :=
  let (negative, body) := splitSign cs
  let word := body.map Char.toLower
  if word = "inf".toList ∨ word = "infinity".toList then
    some (if negative then .negInf else .posInf)
  else if word = "nan".toList then some .nan
  else decimal? negative body

/-- Whether a value is neither infinite nor not-a-number. -/
def isFinite : Binary64 → Bool
  | .finite _ => true
  | _ => false

/-- The order of values. Not-a-number cannot be told from any value. -/
def order : Binary64 → Binary64 → Ordering
  | .nan, _ => .eq
  | _, .nan => .eq
  | .negInf, .negInf => .eq
  | .negInf, _ => .lt
  | _, .negInf => .gt
  | .posInf, .posInf => .eq
  | .posInf, _ => .gt
  | _, .posInf => .lt
  | .finite m, .finite n => compare m n

end Binary64

end SheetScript.Number
