import SheetScript.Yaml.Character

/-!
# Places in a document

A document is read from left to right. Between two tokens there may be blanks, line ends and comments.
A line can start with a byte order mark, which counts as one column.

- `Cursor`: a place in a document, with what follows it.
- `Cursor.skip`: go over what separates two tokens.
- `Cursor.ofText?`: the start of a document.
-/

namespace SheetScript.Yaml

/-- A place in a document. -/
structure Cursor where
  /-- What follows. -/
  rest : List Char
  column : Nat := 0
  line : Nat := 0
  /-- A key or the dash of an item may stand here. -/
  fresh : Bool := true
deriving DecidableEq, Repr

/-- Whether a word ends before some text. -/
def endsWord (cs : List Char) : Bool :=
  cs.head?.all fun c => isBlank c || isBreak c

/-- Whether some text starts with a word. -/
def startsWithWord (word cs : List Char) : Bool :=
  word.isPrefixOf cs && endsWord (cs.drop word.length)

/-- The mark before a document. -/
def startMark : List Char := List.replicate 3 '-'

/-- The mark after a document. -/
def endMark : List Char := List.replicate 3 '.'

/-- Whether there is a mark between documents at some column. -/
def isMarkAt (column : Nat) (cs : List Char) : Bool :=
  column == 0 && (startsWithWord startMark cs || startsWithWord endMark cs)

namespace Cursor

/-- Go over some characters of a line. -/
def forward (n : Nat) (c : Cursor) : Cursor :=
  { c with rest := c.rest.drop n, column := c.column + n }

/-- Go over characters up to the next token. `inComment` says whether this starts in a comment. In
brackets a tab can separate tokens anywhere, elsewhere not where a key may stand; and elsewhere a key
may stand on each new line. -/
def skipFrom (inBrackets inComment : Bool) (column line : Nat) (fresh : Bool) :
    List Char → Cursor
  | [] => ⟨[], column, line, fresh⟩
  | ch :: cs =>
    if isBreak ch then skipFrom inBrackets false 0 (line + 1) (fresh || !inBrackets) cs
    else if inComment then skipFrom inBrackets true (column + 1) line fresh cs
    else if ch == ' ' || (ch == '\t' && (inBrackets || !fresh)) ||
        (column == 0 && isOrderMark ch) then
      skipFrom inBrackets false (column + 1) line fresh cs
    else if ch == '#' then skipFrom inBrackets true (column + 1) line fresh cs
    else ⟨ch :: cs, column, line, fresh⟩

/-- Go over blanks, line ends and comments. -/
def skip (inBrackets : Bool) (c : Cursor) : Cursor :=
  skipFrom inBrackets false c.column c.line c.fresh c.rest

/-- All line ends of a text in one form, but for the typographic ones. -/
def sameBreaks : List Char → List Char
  | '\r' :: '\n' :: cs => '\n' :: sameBreaks cs
  | ch :: cs => (if ch == '\r' || ch.toNat == 0x85 then '\n' else ch) :: sameBreaks cs
  | [] => []

/-- The start of a document, unless it holds characters that a document cannot hold. -/
def ofText? (s : String) : Option Cursor :=
  if s.toList.all isReadable then some { rest := sameBreaks s.toList } else none

end Cursor

end SheetScript.Yaml
