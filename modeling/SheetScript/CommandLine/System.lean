/-!
# What the command line needs from its surroundings

- `System`: files, the input and the output.
-/

namespace SheetScript.CommandLine

/-- Files, the input and the output. -/
structure System (m : Type → Type) where
  /-- The home directory. -/
  home : m String
  /-- Whether there is a file or a directory at a path. -/
  exists? : String → m Bool
  /-- The text of a file, if there is one that can be read. -/
  read? : String → m (Option String)
  /-- Write a file and the directories it lies in. The result says whether this worked. -/
  write : String → String → m Bool
  /-- The whole input, if it is a text. -/
  input? : m (Option String)
  print : String → m Unit

end SheetScript.CommandLine
