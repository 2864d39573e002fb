import SheetScript.Value.Scalar
import SheetScript.Yaml.Character

/-!
# Scalar styles

A text is written without quotes if it then reads back as that text. Otherwise it is put in single
quotes, in double quotes with escapes, or, when it has several lines, into a literal block.

- `Style.ofText`: the style in which a text is written.
- `Style.ofKey`: the same for the key of a map, which stays on one line.
- `inSingleQuotes`, `inDoubleQuotes`, `literalBlock`: the written forms. Further lines of a text start
  with `margin` spaces.
-/

namespace SheetScript.Yaml

/-! ## The choice of a style -/

/-- How a text is written. -/
inductive Style where
  | plain
  | single
  | double
  | literal
deriving DecidableEq, Repr

/-- Whether a text has two neighbouring characters of two kinds. -/
def hasPair (first second : Char → Bool) (cs : List Char) : Bool :=
  (cs.zip cs.tail).any fun (c, d) => first c && second d

/-- Whether a text starts like the mark between two documents. -/
def startsWithMark (cs : List Char) : Bool :=
  "---".toList.isPrefixOf cs || "...".toList.isPrefixOf cs

/-- Whether the first characters of a text would be taken for an indicator. -/
def startsWithIndicator : List Char → Bool
  | [] => false
  | c :: rest =>
    isLeadingIndicator c ||
      ((c == '?' || c == '-') && (rest.isEmpty || rest.head? == some ' '))

/-- Whether a text has a colon where the value of a key could follow, or a number sign where a comment
could start. -/
def hasIndicator (cs : List Char) : Bool :=
  hasPair (· == ':') (· == ' ') cs || cs.getLast? == some ':' ||
    hasPair (· == ' ') (· == '#') cs

/-- Whether a text needs escapes. -/
def hasSpecial (cs : List Char) : Bool :=
  cs.any fun c => !isPrintable c

/-- Whether a text has a space at the end of a line. -/
def hasSpaceBreak (cs : List Char) : Bool :=
  hasPair (· == ' ') isBreak cs

/-- Whether a text has a space at the start of a line after the first. -/
def hasBreakSpace (cs : List Char) : Bool :=
  hasPair isBreak (· == ' ') cs

/-- Whether a text can do without quotes, as far as its characters go. -/
def plainAllowed (cs : List Char) : Bool :=
  !hasSpecial cs && !cs.any isBreak && cs.head? != some ' ' && cs.getLast? != some ' ' &&
    !startsWithMark cs && !startsWithIndicator cs && !hasIndicator cs

/-- Whether single quotes preserve a text. -/
def singleAllowed (cs : List Char) : Bool :=
  !hasSpecial cs && !hasBreakSpace cs && !hasSpaceBreak cs

/-- Whether a literal block preserves a text. -/
def literalAllowed (cs : List Char) : Bool :=
  !hasSpecial cs && !hasSpaceBreak cs && cs.getLast? != some ' '

/-- The style of a text that has no line feed. -/
def Style.ofLine (s : String) : Style :=
  if plainAllowed s.toList && !Scalar.looksTyped s then .plain
  else if singleAllowed s.toList then .single
  else .double

/-- The style of a text. -/
def Style.ofText (s : String) : Style :=
  if s.toList.contains '\n' then if literalAllowed s.toList then .literal else .double
  else .ofLine s

/-- The style of a text that is the key of a map. -/
def Style.ofKey (s : String) : Style :=
  if s.toList.any isBreak then .double else .ofLine s

/-! ## The written forms -/

/-- Some spaces. -/
def spaces (n : Nat) : List Char :=
  List.replicate n ' '

/-- A text whose lines start with `margin` spaces, blank lines excepted. `atStart` says whether the text
continues at the start of a line. -/
def withMargin (margin : Nat) : Bool → List Char → List Char
  | _, [] => []
  | atStart, c :: cs =>
    if isBreak c then c :: withMargin margin true cs
    else (if atStart then spaces margin else []) ++ c :: withMargin margin false cs

/-- A text with each single quote written twice. -/
def doubledQuotes (cs : List Char) : List Char :=
  cs.flatMap fun c => if c = quote then [quote, quote] else [c]

/-- A text in single quotes. -/
def inSingleQuotes (margin : Nat) (cs : List Char) : List Char :=
  let closing := if cs.getLast?.any isBreak then spaces margin else []
  quote :: withMargin margin false (doubledQuotes cs) ++ closing ++ [quote]

/-- The letter that follows the backslash for a character with a short escape. -/
def escapeLetter? (c : Char) : Option Char :=
  match c.toNat with
  | 0x00 => some '0'
  | 0x07 => some 'a'
  | 0x08 => some 'b'
  | 0x09 => some 't'
  | 0x0A => some 'n'
  | 0x0B => some 'v'
  | 0x0C => some 'f'
  | 0x0D => some 'r'
  | 0x1B => some 'e'
  | 0x22 => some '"'
  | 0x5C => some '\\'
  | 0x85 => some 'N'
  | 0x2028 => some 'L'
  | 0x2029 => some 'P'
  | _ => none

/-- A number in hexadecimal with a fixed number of digits, letters in upper case. -/
def hexDigits (width n : Nat) : List Char :=
  let digits := (Nat.toDigits 16 n).map Char.toUpper
  List.replicate (width - digits.length) '0' ++ digits

/-- The escape for a character. -/
def escape (c : Char) : List Char :=
  match escapeLetter? c with
  | some letter => ['\\', letter]
  | none =>
    if c.toNat ≤ 0xFF then '\\' :: 'x' :: hexDigits 2 c.toNat
    else if c.toNat ≤ 0xFFFF then '\\' :: 'u' :: hexDigits 4 c.toNat
    else '\\' :: 'U' :: hexDigits 8 c.toNat

/-- Whether a character is escaped in double quotes. -/
def isEscaped (c : Char) : Bool :=
  !isPrintable c || isBreak c || c == '"' || c == '\\'

/-- A text in double quotes. -/
def inDoubleQuotes (cs : List Char) : List Char :=
  '"' :: (cs.flatMap fun c => if isEscaped c then escape c else [c]) ++ ['"']

/-- The line above a literal block. It gives the margin if the text starts with a blank, and it says
what line ends there are after the text: none, one, or all that are written. -/
def blockHeader (cs : List Char) : List Char :=
  let margin := if cs.head?.any fun c => c == ' ' || isBreak c then ['2'] else []
  let ending :=
    match cs.reverse with
    | [] => ['-']
    | last :: rest =>
      if !isBreak last then ['-']
      else if rest.isEmpty || rest.head?.any isBreak then ['+']
      else []
  '|' :: margin ++ ending

/-- A text as a literal block. -/
def literalBlock (margin : Nat) (cs : List Char) : List Char :=
  blockHeader cs ++ '\n' :: withMargin margin true cs

/-- A text in a style. -/
def Style.write (margin : Nat) (cs : List Char) : Style → List Char
  | plain => cs
  | single => inSingleQuotes margin cs
  | double => inDoubleQuotes cs
  | literal => literalBlock margin cs

end SheetScript.Yaml
