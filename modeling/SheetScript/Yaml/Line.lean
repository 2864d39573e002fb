import SheetScript.Yaml.Cursor
import SheetScript.Value.Scalar

/-!
# Scalars that are folded

Texts without quotes and texts in quotes may run over several lines. The blanks around a line end do
not count, one line end stands for a space, and of several line ends the first does not count.

- `Piece`, `fold`: the characters of such a text as they are read, and the text they make.
- `readPlain`: a text without quotes.
- `readSingle`, `readDouble`: texts in quotes.
-/

namespace SheetScript.Yaml

/-! ## Folding -/

/-- A character as it is read. -/
inductive Piece where
  /-- A character that belongs to the text. -/
  | solid (c : Char)
  | blank (c : Char)
  | lineEnd (c : Char)
  /-- A line end after a backslash, which joins two lines. -/
  | joint
deriving DecidableEq, Repr

/-- The blanks and line ends between two solid characters. -/
structure Gap where
  /-- The blanks, if there is no line end. -/
  blanks : List Char := []
  /-- Whether there is a line end. -/
  broken : Bool := false
  /-- The first line end; none if two lines are joined. -/
  first : List Char := []
  /-- The other line ends. -/
  others : List Char := []
deriving DecidableEq, Repr

namespace Gap

/-- One more blank. -/
def addBlank (c : Char) (g : Gap) : Gap :=
  if g.broken then g else { g with blanks := g.blanks ++ [c] }

/-- One more line end. -/
def addBreak (c : Char) (g : Gap) : Gap :=
  if g.broken then { g with others := g.others ++ [c] }
  else { broken := true, first := [c] }

/-- What a gap stands for. -/
def text (g : Gap) : List Char :=
  if !g.broken then g.blanks
  else if g.first != ['\n'] then g.first ++ g.others
  else if g.others.isEmpty then [' ']
  else g.others

end Gap

/-- The text that some characters make after a gap. `keepEnd` says whether blanks at the end count. -/
def fold (keepEnd : Bool) : Gap → List Piece → List Char
  | gap, [] => if keepEnd then gap.text else []
  | gap, .solid c :: ps => gap.text ++ c :: fold keepEnd {} ps
  | gap, .blank c :: ps => fold keepEnd (gap.addBlank c) ps
  | gap, .lineEnd c :: ps => fold keepEnd (gap.addBreak c) ps
  | gap, .joint :: ps => gap.text ++ fold keepEnd { broken := true } ps

/-- A text and the place behind it. -/
abbrev TextRead : Type := Option (List Char × Cursor)

/-- Put one more piece before those that were read. -/
def withPiece (p : Piece) (read : Option (List Piece × Cursor)) : Option (List Piece × Cursor) :=
  read.map fun (ps, c) => (p :: ps, c)

/-! ## Without quotes -/

/-- The characters that end a text within brackets. -/
def isBracketIndicator (c : Char) : Bool :=
  c == ',' || c == '[' || c == ']' || c.toNat == 0x7B || c.toNat == 0x7D

/-- Whether a colon comes next that ends a text without quotes. -/
def isAtColon (cs : List Char) : Bool :=
  startsWithWord [':'] cs

/-- Whether a colon comes next that can neither end a text within brackets nor belong to it. -/
def isAtStrayColon : List Char → Bool
  | ':' :: c :: _ => isBracketIndicator c || c == '?'
  | _ => false

/-- The pieces of a text without quotes. `least` is the least column of its lines, `inBrackets` lifts
that limit; `gap` says whether blanks were passed since the last solid character, `broken` whether
there was a line end among them. -/
def plainPieces (inBrackets : Bool) (least : Nat) (gap broken : Bool) (column line : Nat) :
    List Char → Option (List Piece × Cursor)
  | [] => some ([], ⟨[], column, line, broken⟩)
  | ch :: cs =>
    if isBreak ch then
      withPiece (.lineEnd ch) (plainPieces inBrackets least true true 0 (line + 1) cs)
    else if isBlank ch then
      if broken && column < least && ch == '\t' then none
      else withPiece (.blank ch) (plainPieces inBrackets least true broken (column + 1) line cs)
    else if gap && ((!inBrackets && column < least) || isMarkAt column (ch :: cs) || ch == '#') then
      some ([], ⟨ch :: cs, column, line, broken⟩)
    else if inBrackets && isAtStrayColon (ch :: cs) then none
    else if isAtColon (ch :: cs) || (inBrackets && isBracketIndicator ch) then
      some ([], ⟨ch :: cs, column, line, broken⟩)
    else withPiece (.solid ch) (plainPieces inBrackets least false false (column + 1) line cs)

/-- Read a text without quotes. -/
def readPlain (inBrackets : Bool) (least : Nat) (c : Cursor) : TextRead :=
  (plainPieces inBrackets least false false c.column c.line c.rest).map fun (ps, behind) =>
    (fold false {} ps, behind)

/-- Whether a text without quotes can start here. -/
def startsPlain (inBrackets : Bool) : List Char → Bool
  | [] => false
  | ch :: cs =>
    if isBlank ch || isBreak ch || isLeadingIndicator ch then false
    else if ch == '-' then !endsWord cs
    else if ch == '?' || ch == ':' then !inBrackets && !endsWord cs
    else true

/-! ## In quotes -/

/-- The place behind a text in quotes. -/
def behindQuote (column line : Nat) (cs : List Char) : Option (List Piece × Cursor) :=
  some ([], ⟨cs, column + 1, line, false⟩)

/-- The pieces of a text in single quotes, from within. A quote that is written twice is one of its
characters. -/
def singlePieces (column line : Nat) : List Char → Option (List Piece × Cursor)
  | [] => none
  | ch :: cs =>
    if isMarkAt column (ch :: cs) then none
    else if isBreak ch then withPiece (.lineEnd ch) (singlePieces 0 (line + 1) cs)
    else if isBlank ch then withPiece (.blank ch) (singlePieces (column + 1) line cs)
    else if ch == quote then
      match cs with
      | next :: rest =>
        if next == quote then withPiece (.solid quote) (singlePieces (column + 2) line rest)
        else behindQuote column line cs
      | [] => behindQuote column line []
    else withPiece (.solid ch) (singlePieces (column + 1) line cs)

/-- The character for the letter after a backslash. -/
def unescapeLetter? : Char → Option Char
  | '0' => some (Char.ofNat 0x00)
  | 'a' => some (Char.ofNat 0x07)
  | 'b' => some (Char.ofNat 0x08)
  | 't' | '\t' => some '\t'
  | 'n' => some '\n'
  | 'v' => some (Char.ofNat 0x0B)
  | 'f' => some (Char.ofNat 0x0C)
  | 'r' => some '\r'
  | 'e' => some (Char.ofNat 0x1B)
  | ' ' => some ' '
  | '"' => some '"'
  | '/' => some '/'
  | '\\' => some '\\'
  | 'N' => some (Char.ofNat 0x85)
  | '_' => some (Char.ofNat 0xA0)
  | 'L' => some (Char.ofNat 0x2028)
  | 'P' => some (Char.ofNat 0x2029)
  | _ => none

/-- The number of hexadecimal digits that follow the letter after a backslash. -/
def hexWidth? : Char → Option Nat
  | 'x' => some 2
  | 'u' => some 4
  | 'U' => some 8
  | _ => none

/-- The character with a number, if there is one. -/
def charOfNumber? (n : Nat) : Option Char :=
  if n.isValidChar then some (Char.ofNat n) else none

/-- What a backslash and the characters after it stand for, and how many characters there are after
it. -/
def unescape? : List Char → Option (Char × Nat)
  | [] => none
  | letter :: cs =>
    match unescapeLetter? letter with
    | some c => some (c, 1)
    | none => do
      let width ← hexWidth? letter
      let n ← Scalar.radix? 16 (cs.take width)
      let c ← charOfNumber? n
      if (cs.take width).length = width then some (c, width + 1) else none

/-- The pieces of a text in double quotes, from within. `passed` is the number of characters that
belong to an escape already read. -/
def doublePieces (passed column line : Nat) : List Char → Option (List Piece × Cursor)
  | [] => none
  | ch :: cs =>
    match passed with
    | passed + 1 =>
      if isBreak ch then doublePieces passed 0 (line + 1) cs
      else doublePieces passed (column + 1) line cs
    | 0 =>
      if isMarkAt column (ch :: cs) then none
      else if isBreak ch then withPiece (.lineEnd ch) (doublePieces 0 0 (line + 1) cs)
      else if isBlank ch then withPiece (.blank ch) (doublePieces 0 (column + 1) line cs)
      else if ch == '"' then behindQuote column line cs
      else if ch == '\\' then
        if cs.head?.any isBreak then withPiece .joint (doublePieces 1 (column + 1) line cs)
        else
          match unescape? cs with
          | some (c, width) => withPiece (.solid c) (doublePieces width (column + 1) line cs)
          | none => none
      else withPiece (.solid ch) (doublePieces 0 (column + 1) line cs)

/-- Read the rest of a text in single quotes. -/
def readSingle (c : Cursor) : TextRead :=
  (singlePieces c.column c.line c.rest).map fun (ps, behind) => (fold true {} ps, behind)

/-- Read the rest of a text in double quotes. -/
def readDouble (c : Cursor) : TextRead :=
  (doublePieces 0 c.column c.line c.rest).map fun (ps, behind) => (fold true {} ps, behind)

end SheetScript.Yaml
