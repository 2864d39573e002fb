import SheetScript.Value.Basic
import SheetScript.Yaml.Block
import SheetScript.Yaml.Line

/-!
# Tokens

A document is a row of tokens. Besides those that stand in the text there are tokens for what the text
only shows by its columns: that a block starts or ends, and that something is a key, which is known
only when its colon comes.

- `Token`: the tokens.
- `KeyStart`, `Scan`: what is known at a place between two tokens.
- `Scan.next`: go over one token.
- `Token.ofText?`: the tokens of a document.
-/

namespace SheetScript.Yaml

/-- What a pair of brackets encloses. -/
inductive Bracket where
  | list
  | map
deriving DecidableEq, Repr

/-- A token of a document. -/
inductive Token where
  /-- The mark before a document. -/
  | documentStart
  /-- The mark after a document. -/
  | documentEnd
  /-- A list of several lines starts. -/
  | blockList
  /-- A map of several lines starts. -/
  | blockMap
  /-- The innermost list or map of several lines ends. -/
  | blockEnd
  | dash
  | opening (bracket : Bracket)
  | closing (bracket : Bracket)
  | comma
  /-- What comes next is a key. -/
  | key
  | colon
  | scalar (value : Value)
deriving Repr

/-! ## Places between tokens -/

/-- A place where a key may have started. -/
structure KeyStart where
  /-- How many tokens come before it. -/
  index : Nat
  column : Nat
  line : Nat
  /-- Only a key can stand here, since the place is at the margin of a block. -/
  isRequired : Bool
deriving DecidableEq, Repr

namespace KeyStart

/-- The most columns from the start of a key to its colon. -/
def maxLength : Nat := 1024

/-- Whether no colon at a place can belong to a key that started here: a key and its colon are on one
line, and the colon is not far off. -/
def isPast (k : KeyStart) (c : Cursor) : Bool :=
  k.line < c.line || k.column + maxLength < c.column

end KeyStart

/-- What is known at a place between two tokens. -/
structure Scan where
  cursor : Cursor
  /-- The margins of the open blocks, the innermost first. -/
  margins : List Nat := []
  /-- Where the key before the next colon would start. -/
  keyStart : Option KeyStart := none
  /-- The same for what is around each open bracket, the innermost first. -/
  outerStarts : List (Option KeyStart) := []
  /-- The tokens so far, the last first. -/
  tokens : List Token := []
  /-- The number of tokens so far. -/
  count : Nat := 0

namespace Scan

/-- Whether a bracket is open. -/
def inBrackets (s : Scan) : Bool :=
  !s.outerStarts.isEmpty

/-- The least column of what belongs to the innermost block. -/
def least (s : Scan) : Nat :=
  match s.margins with
  | [] => 0
  | margin :: _ => margin + 1

/-- Whether a block may start at a column. -/
def isBeyondMargin (column : Nat) (s : Scan) : Bool :=
  !s.inBrackets && s.least ≤ column

/-- Put some tokens in their order behind the first `index` tokens. -/
def insert (index : Nat) (ts : List Token) (s : Scan) : Scan :=
  let behind := s.count - index
  { s with
    tokens := s.tokens.take behind ++ ts.reverse ++ s.tokens.drop behind
    count := s.count + ts.length }

/-- Add a token. -/
def add (t : Token) (s : Scan) : Scan :=
  { s with tokens := t :: s.tokens, count := s.count + 1 }

/-- Set whether a key may stand at the place. -/
def withFresh (fresh : Bool) (s : Scan) : Scan :=
  { s with cursor := { s.cursor with fresh } }

/-- Add the token that the next characters are. -/
def take (length : Nat) (t : Token) (fresh : Bool) (s : Scan) : Scan :=
  { s.add t with cursor := { s.cursor.forward length with fresh } }

/-! ## Blocks -/

/-- End the blocks whose margins are at least `limit`. Brackets keep all blocks around them open. -/
def closeBlocks (limit : Nat) (s : Scan) : Scan :=
  if s.inBrackets then s
  else
    let closed := (s.margins.takeWhile (limit ≤ ·)).length
    { s with
      margins := s.margins.drop closed
      tokens := List.replicate closed .blockEnd ++ s.tokens
      count := s.count + closed }

/-- Start a block at the place if it is beyond the margin. -/
def openBlock (t : Token) (s : Scan) : Scan :=
  if s.isBeyondMargin s.cursor.column then
    { s.add t with margins := s.cursor.column :: s.margins }
  else s

/-! ## Keys -/

/-- A key start as far as its colon can still come. -/
def keepStart (c : Cursor) : Option KeyStart → Option (Option KeyStart)
  | none => some none
  | some k => if k.isPast c then (if k.isRequired then none else some none) else some (some k)

/-- Give up the key starts whose colon can no longer come. -/
def dropPastStarts (s : Scan) : Option Scan := do
  let keyStart ← keepStart s.cursor s.keyStart
  let outerStarts ← s.outerStarts.mapM (keepStart s.cursor)
  return { s with keyStart, outerStarts }

/-- Give up the key start. -/
def dropStart (s : Scan) : Option Scan :=
  if s.keyStart.any (·.isRequired) then none else some { s with keyStart := none }

/-- Note that a key may start at the place. -/
def noteStart (s : Scan) : Option Scan :=
  if s.cursor.fresh then do
    let s ← s.dropStart
    let isRequired := !s.inBrackets && s.margins.head? == some s.cursor.column
    return { s with
      keyStart := some ⟨s.count, s.cursor.column, s.cursor.line, isRequired⟩ }
  else some s

/-- What was read since a key start is a key. -/
def makeKey (k : KeyStart) (s : Scan) : Scan :=
  if s.isBeyondMargin k.column then
    { s.insert k.index [.blockMap, .key] with
      margins := k.column :: s.margins, keyStart := none }
  else { s.insert k.index [.key] with keyStart := none }

/-! ## Single tokens -/

/-- Go over a mark between documents. -/
def readMark (t : Token) (s : Scan) : Option Scan := do
  let s ← (s.closeBlocks 0).dropStart
  return s.take startMark.length t false

/-- Go over an opening bracket. -/
def readOpening (bracket : Bracket) (s : Scan) : Option Scan := do
  let s ← s.noteStart
  return { s with outerStarts := s.keyStart :: s.outerStarts, keyStart := none }
    |>.take 1 (.opening bracket) true

/-- Go over a closing bracket. What it closes may be a key as a whole. -/
def readClosing (bracket : Bracket) (s : Scan) : Option Scan := do
  let s ← s.dropStart
  return { s with keyStart := s.outerStarts.head?.join, outerStarts := s.outerStarts.tail }
    |>.take 1 (.closing bracket) false

/-- Go over a comma. -/
def readComma (s : Scan) : Option Scan := do
  let s ← s.dropStart
  return s.take 1 .comma true

/-- Go over the dash of an item. -/
def readDash (s : Scan) : Option Scan :=
  if s.inBrackets || s.cursor.fresh then do
    let s ← (s.openBlock .blockList).dropStart
    return s.take 1 .dash true
  else none

/-- Go over the mark of a key that stands for itself. -/
def readKeyMark (s : Scan) : Option Scan :=
  if s.inBrackets || s.cursor.fresh then do
    let s ← (s.openBlock .blockMap).dropStart
    return s.take 1 .key (!s.inBrackets)
  else none

/-- Go over a colon. -/
def readColon (s : Scan) : Option Scan :=
  match s.keyStart with
  | some k => some ((s.makeKey k).take 1 .colon false)
  | none =>
    if s.inBrackets || s.cursor.fresh then
      some ((s.openBlock .blockMap).take 1 .colon (!s.inBrackets))
    else none

/-- Go over a block scalar. -/
def readBlockScalar (folded : Bool) (s : Scan) : Option Scan := do
  let s ← s.dropStart
  let (cs, cursor) ← readBlock folded s.least (s.cursor.forward 1)
  return { s.add (.scalar (.text (String.ofList cs))) with cursor }

/-- Go over a scalar that is not in a block. -/
def readScalar (s : Scan) : Option Scan := do
  let s ← s.noteStart
  let c := s.cursor
  if c.rest.head? = some quote then
    let (cs, cursor) ← readSingle (c.forward 1)
    return { s.add (.scalar (.text (String.ofList cs))) with cursor }
  else if c.rest.head? = some '"' then
    let (cs, cursor) ← readDouble (c.forward 1)
    return { s.add (.scalar (.text (String.ofList cs))) with cursor }
  else if startsPlain s.inBrackets c.rest then
    let (cs, cursor) ← readPlain s.inBrackets s.least c
    return { s.add (.scalar (.scalar (String.ofList cs))) with cursor }
  else none

/-! ## Documents -/

/-- Go over one token. -/
def next (s : Scan) : Option Scan :=
  let cs := s.cursor.rest
  let behind := cs.drop 1
  let isAt (ch : Char) : Bool := cs.head? == some ch
  let isWord : Bool := s.inBrackets || endsWord behind
  if isMarkAt s.cursor.column cs then
    s.readMark (if isAt '-' then .documentStart else .documentEnd)
  else if isAt listOpen then s.readOpening .list
  else if isAt mapOpen then s.readOpening .map
  else if isAt listClose then s.readClosing .list
  else if isAt mapClose then s.readClosing .map
  else if isAt ',' then s.readComma
  else if isAt '-' && endsWord behind then s.readDash
  else if isAt '?' && isWord then s.readKeyMark
  else if isAt ':' && isWord then s.readColon
  else if (isAt '|' || isAt '>') && !s.inBrackets then s.readBlockScalar (isAt '>')
  else s.readScalar

/-- Go to the next token, and end the blocks and the key starts that do not reach there. -/
def toToken (s : Scan) : Option Scan := do
  let s ← { s with cursor := s.cursor.skip s.inBrackets }.dropPastStarts
  return s.closeBlocks (s.cursor.column + 1)

/-- All tokens, at the end of the text. -/
def finish (s : Scan) : Option (List Token) := do
  let s ← (s.closeBlocks 0).dropStart
  return s.tokens.reverse

/-- All tokens. Each step goes over at least one character, of which there are less than the first
number. -/
def run : Nat → Scan → Option (List Token)
  | 0, _ => none
  | fuel + 1, s => do
    let s ← s.toToken
    if s.cursor.rest.isEmpty then s.finish else run fuel (← s.next)

end Scan

/-- The tokens of a document. -/
def Token.ofText? (s : String) : Option (List Token) := do
  Scan.run (s.length + 1) { cursor := ← Cursor.ofText? s }

end SheetScript.Yaml
