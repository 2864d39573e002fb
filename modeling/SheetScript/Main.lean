import SheetScript.CommandLine.Run

/-!
# The program

The command line on the files of the machine it runs on.
-/

namespace SheetScript.CommandLine

/-- The result of an action, if it does not fail. -/
def attempt {α : Type} (action : IO α) : IO (Option α) := do
  match ← action.toBaseIO with
  | .ok a => return some a
  | .error _ => return none

/-- The directory a path leads to, if the path has one. -/
def directoryOf (path : String) : String :=
  String.ofList ((path.toList.reverse.dropWhile (· != '/')).drop 1).reverse

/-- Write a file and the directories it lies in. -/
def writeFile (path text : String) : IO Unit := do
  if directoryOf path != "" then IO.FS.createDirAll (directoryOf path)
  IO.FS.writeFile path text

/-- The surroundings of the running program. -/
def machine : System IO where
  home := return (← IO.getEnv "HOME").getD "."
  exists? path := return (← attempt (IO.FS.Handle.mk path .read)).isSome
  read? path := attempt (IO.FS.readFile path)
  write path text := return (← attempt (writeFile path text)).isSome
  input? := attempt (do (← IO.getStdin).readToEnd)
  print text := IO.print text

end SheetScript.CommandLine

open SheetScript SheetScript.CommandLine in
/-- Run with the arguments of the program. -/
def main (args : List String) : IO UInt32 := do
  let exit ← run machine .yaml args
  match exit with
  | .failed message => IO.eprintln ("error: " ++ message)
  | _ => pure ()
  return exit.code.toUInt32
