/-!
# Paths

A path is a row of steps from the root or from the working directory. An empty step and a dot stay where
they are, two dots go up, any other name goes down.

- `Step`, `Path`: the paths.
- `Path.ofText`: the path that a text stands for.
- `Path.parent?`: the path of the directory that a file lies in.
-/

namespace SheetScript.CommandLine

/-- A step of a path. -/
inductive Step where
  /-- Stay. What a path has reached so far has to be a directory. -/
  | here
  | up
  | down (name : String)
deriving DecidableEq, Repr

/-- A path. -/
structure Path where
  /-- The path starts at the root. -/
  isAbsolute : Bool
  steps : List Step
deriving DecidableEq, Repr

/-- The step that a part between two slashes stands for. -/
def Step.ofPart (part : List Char) : Step :=
  if part = [] ∨ part = ['.'] then here
  else if part = ['.', '.'] then up
  else down (String.ofList part)

namespace Path

/-- The path that a text stands for. A slash at the end is a step that stays. -/
def ofText (s : String) : Path where
  isAbsolute := s.toList.head? == some '/'
  steps := (s.toList.splitOn '/').map Step.ofPart

/-- The path without its last step, where steps that stay do not count; none if there are no other
steps. -/
def parent? (p : Path) : Option Path :=
  let steps := p.steps.filter (· != .here)
  if steps = [] then none else some { p with steps := steps.dropLast }

end Path

end SheetScript.CommandLine
