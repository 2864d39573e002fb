import SheetScript.Number.Binary64
import SheetScript.Text.Numeral

/-!
# Scalars without quotes

An unquoted scalar can be null, a flag, a number or a text. Where a text is meant that looks like one
of the others, it has to be quoted.

- `isNullWord`, `flag?`, `natural?`: the scalars that stand for null, for a flag and for a count.
- `looksTyped`: the scalars that are taken for something other than a text.
-/

namespace SheetScript.Scalar

/-- Whether a scalar stands for null. -/
def isNullWord (s : String) : Bool :=
  s ∈ ["null", "Null", "NULL", "~"]

/-- The flag a scalar stands for. -/
def flag? (s : String) : Option Bool :=
  if s ∈ ["true", "True", "TRUE"] then some true
  else if s ∈ ["false", "False", "FALSE"] then some false
  else none

/-! ## Integers -/

/-- The value of a digit, in either case for those that are letters. -/
def digitValue? (c : Char) : Option Nat :=
  if c.isDigit then some (c.toNat - '0'.toNat)
  else if c.isAlpha then some (c.toLower.toNat - 'a'.toNat + 10)
  else none

/-- Read one more digit of a numeral in some base. -/
def readDigit (base n : Nat) (c : Char) : Option Nat :=
  (digitValue? c).bind fun d => if d < base then some (base * n + d) else none

/-- The value of a nonempty run of digits in some base. -/
def radix? (base : Nat) (cs : List Char) : Option Nat :=
  if cs = [] then none else cs.foldlM (readDigit base) 0

/-- Whether some digits start with a zero that is not the only digit. -/
def hasIdleZero : List Char → Bool
  | '0' :: c :: cs => (c :: cs).all Char.isDigit
  | _ => false

/-- The value of an unsigned integer: hexadecimal, octal or binary after a mark, else decimal without
an idle zero. -/
def magnitude? : List Char → Option Nat
  | '0' :: 'x' :: cs => radix? 16 cs
  | '0' :: 'o' :: cs => radix? 8 cs
  | '0' :: 'b' :: cs => radix? 2 cs
  | cs => if hasIdleZero cs then none else radix? 10 cs

/-- A text without one plus sign at its start. -/
def dropPlus : List Char → List Char
  | '+' :: cs => cs
  | cs => cs

/-- The value of an integer that is not negative and at most `limit`. -/
def natural? (limit : Nat) (s : String) : Option Nat :=
  (magnitude? (dropPlus s.toList)).filter (· ≤ limit)

/-- Whether a text is a negative integer of at most 128 bits. -/
def isNegative : List Char → Bool
  | '-' :: cs => (magnitude? cs).any (· ≤ Nat.pow 2 127)
  | _ => false

/-- Whether a text is digits after an optional sign, starting with an idle zero. -/
def isZeroPadded : List Char → Bool
  | '-' :: cs | '+' :: cs => hasIdleZero cs
  | cs => hasIdleZero cs

/-! ## Fractions -/

/-- Whether a text starts with a sign. -/
def startsSigned : List Char → Bool
  | '-' :: _ | '+' :: _ => true
  | _ => false

/-- The words for infinity after an optional plus sign. -/
def infinityWords : List String := [".inf", ".Inf", ".INF"]

/-- The words for negative infinity and for not-a-number. They take no plus sign. -/
def unsignedWords : List String := ["-.inf", "-.Inf", "-.INF", ".nan", ".NaN", ".NAN"]

/-- Whether a text is a number in double precision, which has to be finite unless it is a word. -/
def isFraction (cs : List Char) : Bool :=
  let bare := dropPlus cs
  !(bare != cs && startsSigned bare) &&
    (infinityWords.any (·.toList == bare) || unsignedWords.any (·.toList == cs) ||
      (Number.Binary64.parse? bare).any Number.Binary64.isFinite)

/-- Whether an unquoted scalar is taken for something other than a text. -/
def looksTyped (s : String) : Bool :=
  s == "" || isNullWord s || (flag? s).isSome || (natural? (Nat.pow 2 128 - 1) s).isSome ||
    isNegative s.toList || isZeroPadded s.toList || isFraction s.toList

end SheetScript.Scalar
