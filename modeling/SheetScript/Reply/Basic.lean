import SheetScript.Command.RowMacro
import SheetScript.Reply.Fence
import SheetScript.Reply.Spacing

/-!
# Replies

A reply is free text with commands in it, one per line. A command line is a bare verb, or a name and
arguments with bars between them. Every other line is prose. Lines that only resemble a command are
prose, and nothing in a reply is an error.

- `Reply.parseLine?`: the commands a line stands for, if it is a command line.
- `Reply.sortLines`: the commands and the prose among some lines.
- `Reply.parse`: the prose and the commands of a reply.
-/

namespace SheetScript

/-- A reply, split into what a user should read and what should be done. -/
structure Reply where
  /-- The prose without blank lines. -/
  prose : String
  /-- The commands in order, row macros expanded. -/
  commands : List Command
deriving DecidableEq, Repr

namespace Reply

/-! ## Lines -/

/-- Whether some characters are a name: an ASCII letter, then letters, digits and underscores. -/
def isName : List Char → Bool
  | [] => false
  | c :: cs => c.isAlpha && cs.all fun d => d.isAlphanum || d == '_'

/-- What stands before the first bar of a line, and what stands between the bars behind it. -/
def fields? (line : List Char) : Option (List Char × List (List Char)) :=
  match line.dropWhile (· != '|') with
  | [] => none
  | _ :: args => some (line.takeWhile (· != '|'), args.splitOn '|')

/-- The commands that a line without surrounding blanks stands for. -/
def parseTrimmed? (line : List Char) : Option (List Command) :=
  let label := String.ofList line
  match Verb.ofBareLine? label with
  | some verb => some [⟨.verb verb, [], label⟩]
  | none =>
    match fields? (tightenBars line) with
    | some (name, args) =>
      if isName name then
        let args := args.map fun arg => String.ofList (Text.trimChars arg)
        some (expand (.ofName (String.ofList name)) args label)
      else none
    | none => none

/-- The commands that a line stands for; `none` for prose. -/
def parseLine? (line : List Char) : Option (List Command) :=
  parseTrimmed? (Text.trimChars line)

/-! ## Texts -/

/-- The lines of a reply, its code fences dropped. -/
def lines (text : String) : List (List Char) :=
  (stripFences text.toList).splitOn '\n'

/-- Some lines, sorted: the commands of those that are command lines, and the others. -/
def sortLines : List (List Char) → List Command × List (List Char)
  | [] => ([], [])
  | line :: rest =>
    let (commands, prose) := sortLines rest
    match parseLine? line with
    | some cs => (cs ++ commands, prose)
    | none => (commands, line :: prose)

/-- The prose and the commands of a reply. -/
def parse (text : String) : Reply :=
  let (commands, prose) := sortLines (lines text)
  ⟨String.ofList (Text.trimChars (dropBlankLines (['\n'].intercalate prose))), commands⟩

end Reply

end SheetScript
