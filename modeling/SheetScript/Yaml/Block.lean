import SheetScript.Yaml.Cursor

/-!
# Block scalars

A block scalar is a text of whole lines below a header. In a literal block each line end is kept; in a
folded block a line end between two lines without leading blanks stands for a space. The header may
give the indentation and say what becomes of the line ends after the last line.

- `BlockHeader`, `takeSigns`, `afterHeader`: the header.
- `BlockLine`, `takeBlock`, `blockText`: the lines, and the text they make.
- `readBlock`: a block scalar.
-/

namespace SheetScript.Yaml

/-! ## The header -/

/-- What becomes of the line ends after the last line of a block. -/
inductive Ending where
  | none
  | one
  | all
deriving DecidableEq, Repr

/-- What a header says. -/
structure BlockHeader where
  /-- The lines are folded. -/
  folded : Bool
  /-- The indentation of the lines relative to what the block belongs to. -/
  indentation : Option Nat := .none
  ending : Ending := .one
deriving DecidableEq, Repr

/-- The ending that a sign of a header stands for. -/
def Ending.ofSign? : Char → Option Ending
  | '-' => some none
  | '+' => some all
  | _ => .none

/-- A sign for the ending at the start of a text, and what follows. -/
def takeEnding (cs : List Char) : Ending × List Char :=
  match cs with
  | ch :: rest =>
    match Ending.ofSign? ch with
    | some ending => (ending, rest)
    | none => (.one, cs)
  | [] => (.one, [])

/-- An indentation at the start of a text, and what follows. -/
def takeIndentation (cs : List Char) : Option Nat × List Char :=
  match cs with
  | ch :: rest => if ch.isDigit then (some (ch.toNat - '0'.toNat), rest) else (none, cs)
  | [] => (none, [])

/-- The signs of a header in either order, and what follows them. The indentation is not zero. -/
def takeSigns (folded : Bool) (cs : List Char) : Option (BlockHeader × List Char) :=
  let (ending, afterEnding) := takeEnding cs
  let (indentation, rest) := takeIndentation afterEnding
  if indentation = some 0 then none
  else if afterEnding = cs then
    let (ending, rest) := if indentation.isSome then takeEnding rest else (.one, rest)
    some (⟨folded, indentation, ending⟩, rest)
  else some (⟨folded, indentation, ending⟩, rest)

/-- The lines after a header, which can end with blanks and a comment. -/
def afterHeader (cs : List Char) : Option (List Char) :=
  let rest := cs.dropWhile isBlank
  let rest := if rest.head? = some '#' then rest.dropWhile fun c => !isBreak c else rest
  match rest with
  | [] => some []
  | ch :: lines => if isBreak ch then some lines else none

/-! ## The lines -/

/-- A text cut after each line end. -/
def cutLines : List Char → List (List Char)
  | [] => []
  | ch :: cs =>
    if isBreak ch then [ch] :: cutLines cs
    else
      match cutLines cs with
      | [] => [[ch]]
      | line :: lines => (ch :: line) :: lines

/-- How many spaces a line starts with. -/
def leadingSpaces (line : List Char) : Nat :=
  (line.takeWhile (· == ' ')).length

/-- The indentation of a block whose header does not give it: the spaces before the first line that is
not blank, or more if a line above it has more. `least` is the least indentation. A tab cannot stand
in its place. -/
def findIndentation (least : Nat) : List (List Char) → Option Nat
  | [] => some least
  | line :: lines =>
    let spaces := leadingSpaces line
    match line.drop spaces with
    | ch :: _ =>
      if isBreak ch then findIndentation (max least spaces) lines
      else if ch == '\t' then none
      else some (max least spaces)
    | [] => some (max least spaces)

/-- A line of a block, without its indentation. -/
inductive BlockLine where
  | empty (lineEnd : List Char)
  | full (text lineEnd : List Char)
deriving DecidableEq, Repr

/-- What a line below a header is, given the indentation. -/
inductive LineRead where
  | line (l : BlockLine)
  /-- The line does not belong to the block. -/
  | behind
  /-- A tab stands where the indentation should be. -/
  | tabbed
deriving DecidableEq, Repr

/-- What a line below a header is. -/
def LineRead.ofChars (indentation : Nat) (line : List Char) : LineRead :=
  let spaces := min indentation (leadingSpaces line)
  let rest := line.drop spaces
  match rest with
  | [] => .behind
  | ch :: _ =>
    if isBreak ch then .line (.empty [ch])
    else if spaces < indentation then if ch == '\t' then .tabbed else .behind
    else
      .line (.full (rest.takeWhile fun c => !isBreak c) (rest.dropWhile fun c => !isBreak c))

/-- The lines of a block, and the lines behind it. -/
def takeBlock (indentation : Nat) :
    List (List Char) → Option (List BlockLine × List (List Char))
  | [] => some ([], [])
  | line :: lines =>
    match LineRead.ofChars indentation line with
    | .line l => (takeBlock indentation lines).map fun (ls, behind) => (l :: ls, behind)
    | .behind => some ([], line :: lines)
    | .tabbed => none

/-! ## The text -/

/-- The line ends since the last line that is not empty. -/
structure LineEnds where
  /-- The end of that line. -/
  first : List Char := []
  /-- The ends of the empty lines below it. -/
  others : List Char := []
  /-- That line starts with a blank. -/
  indented : Bool := false
deriving DecidableEq, Repr

namespace LineEnds

/-- What stands for the line ends between two lines, the second of which may start with a blank. -/
def between (folded indented : Bool) (e : LineEnds) : List Char :=
  if folded && e.first == ['\n'] && !e.indented && !indented then
    if e.others.isEmpty then [' '] else e.others
  else e.first ++ e.others

/-- What stands for the line ends after the last line. -/
def final (ending : Ending) (e : LineEnds) : List Char :=
  match ending with
  | .none => []
  | .one => e.first
  | .all => e.first ++ e.others

end LineEnds

/-- The text that the lines of a block make after some line ends. -/
def blockText (folded : Bool) (ending : Ending) : LineEnds → List BlockLine → List Char
  | e, [] => e.final ending
  | e, .empty lineEnd :: ls => blockText folded ending { e with others := e.others ++ lineEnd } ls
  | e, .full text lineEnd :: ls =>
    let indented := text.head?.any isBlank
    e.between folded indented ++ text ++
      blockText folded ending { first := lineEnd, indented } ls

/-- Read a block scalar behind its first sign. `least` is the least column of what belongs to the same
place. -/
def readBlock (folded : Bool) (least : Nat) (c : Cursor) : Option (List Char × Cursor) := do
  let (header, rest) ← takeSigns folded c.rest
  let lines := cutLines (← afterHeader rest)
  let indentation ← match header.indentation with
    | some n => some (least - 1 + n)
    | none => findIndentation (max least 1) lines
  let (taken, behind) ← takeBlock indentation lines
  return (blockText folded header.ending {} taken,
    ⟨behind.flatten, 0, c.line + 1 + taken.length, true⟩)

end SheetScript.Yaml
