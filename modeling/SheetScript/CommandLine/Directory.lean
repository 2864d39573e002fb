import SheetScript.CommandLine.Path
import SheetScript.CommandLine.System

/-!
# Surroundings in memory

The working directory is the home directory. Directories are made as they are needed, and a path may
lead through any that are there.

- `Directory`: files and directories, with what is to be read and what was printed.
- `Directory.walk`: what a path leads to.
- `Directory.write`: write a file and the directories it lies in.
- `Directory.system`: the surroundings.
-/

namespace SheetScript.CommandLine

/-- A place in the tree of directories: the names from the root. -/
abbrev Location : Type := List String

/-- Files and directories, with what is to be read and what was printed. -/
structure Directory where
  /-- The home directory. -/
  home : Location
  /-- The directories, but for the root. -/
  folders : List Location := [home]
  files : List (Location × String) := []
  input : String := ""
  output : String := ""
deriving DecidableEq, Repr

/-- What a path leads to. -/
inductive Place where
  | folder
  | file (location : Location) (text : String)
  /-- Nothing, but the directory it would lie in is there. -/
  | free (location : Location)
  /-- Nothing, since a directory on the way is missing. -/
  | missing
  /-- Nothing, since a file on the way is no directory. -/
  | blocked
deriving DecidableEq, Repr

namespace Directory

/-- The text of a location. -/
def locationText (l : Location) : String :=
  String.join (l.map ("/" ++ ·))

/-- Whether there is a directory at a location. -/
def isFolder (d : Directory) (l : Location) : Bool :=
  l == [] || d.folders.contains l

/-- What some steps lead to from a directory. -/
def walkFrom (d : Directory) : Location → List Step → Place
  | _, [] => .folder
  | l, .here :: steps => d.walkFrom l steps
  | l, .up :: steps => d.walkFrom l.dropLast steps
  | l, .down name :: steps =>
    let next := l ++ [name]
    if d.isFolder next then d.walkFrom next steps
    else
      match d.files.lookup next with
      | some text => if steps = [] then .file next text else .blocked
      | none => if steps = [] then .free next else .missing

/-- What a path leads to. -/
def walk (d : Directory) (p : Path) : Place :=
  d.walkFrom (if p.isAbsolute then [] else d.home) p.steps

/-- Make a directory whose parent is there. The result says whether there is a directory now. -/
def makeFolder (d : Directory) (p : Path) : Bool × Directory :=
  match d.walk p with
  | .folder => (true, d)
  | .free l => (true, { d with folders := d.folders ++ [l] })
  | _ => (false, d)

/-- Make a directory and those it lies in, where the steps of its path are given from the last to the
first. The result says whether there is a directory now. -/
def makeFolders (isAbsolute : Bool) : List Step → Directory → Bool × Directory
  | [], d => (true, d)
  | last :: before, d =>
    let path : Path := ⟨isAbsolute, (last :: before).reverse⟩
    match d.walk path with
    | .missing =>
      match makeFolders isAbsolute before d with
      | (true, d) => d.makeFolder path
      | (false, d) => (false, d)
    | _ => d.makeFolder path

/-- Put a file in place of one at the same location. -/
def put (d : Directory) (l : Location) (text : String) : Directory :=
  { d with files := d.files.filter (·.1 != l) ++ [(l, text)] }

/-- Write a file and the directories it lies in. The result says whether this worked; if it did not,
some of the directories may have been made. -/
def write (d : Directory) (p : Path) (text : String) : Bool × Directory :=
  let (made, d) := match p.parent? with
    | none => (true, d)
    | some parent => makeFolders parent.isAbsolute parent.steps.reverse d
  match made, d.walk p with
  | true, .file l _ | true, .free l => (true, d.put l text)
  | _, _ => (false, d)

/-- A home directory with some files. -/
def ofFiles (home : Location) (files : List (String × String)) : Directory :=
  files.foldl (fun d f => (d.write (.ofText f.1) f.2).2) { home }

/-- The files in the home directory, under their paths from there. -/
def filesAtHome (d : Directory) : List (String × String) :=
  d.files.filterMap fun (l, text) =>
    if d.home.isPrefixOf l then some ("/".intercalate (l.drop d.home.length), text) else none

/-- The surroundings that a directory makes. -/
def system : System (StateM Directory) where
  home := return locationText (← get).home
  exists? path := do
    match (← get).walk (.ofText path) with
    | .folder | .file _ _ => return true
    | _ => return false
  read? path := do
    match (← get).walk (.ofText path) with
    | .file _ text => return some text
    | _ => return none
  write path text := modifyGet (·.write (.ofText path) text)
  input? := do return some (← get).input
  print text := modify fun d => { d with output := d.output ++ text }

end Directory

end SheetScript.CommandLine
