import SheetScript.CommandLine.Arguments
import SheetScript.CommandLine.System
import SheetScript.Store
import SheetScript.Turn.Display
import SheetScript.Turn.Report
import SheetScript.Value.Json
import SheetScript.Workbook.Host

/-!
# Running the command line

All replies are read before anything else. Then the settings, the workbook and the history are loaded,
the replies run one after another, and the workbook and the history are saved.

- `Exit`: how a run ends.
- `Session`: the documents in memory and where they are saved.
- `run`: a run with the given arguments.
-/

namespace SheetScript.CommandLine

/-- How a run ends. -/
inductive Exit where
  | success
  /-- Everything ran, but not everything went well. -/
  | unclean
  /-- The arguments make no request. -/
  | usage
  | failed (message : String)
  /-- Something in it stopped everything. -/
  | stopped (why : Stop)
deriving DecidableEq, Repr

/-- The number a run reports when it ends. -/
def Exit.code : Exit → Nat
  | success => 0
  | failed _ => 1
  | unclean | usage => 2
  | stopped _ => 101

/-- The exit of a run that came to its end. -/
def Exit.ofClean (clean : Bool) : Exit :=
  if clean then success else unclean

/-- The documents in memory and where they are saved. -/
structure Session where
  book : Workbook
  editor : Editor
  workbookPath : String
  historyPath : String

/-- The name and the version that are printed on demand. -/
def versionLine : String := "gridpilot 0.1.0"

section

variable {m : Type → Type} [Monad m]

/-- A run that may end early. -/
abbrev Run (m : Type → Type) : Type → Type := ExceptT Exit m

/-- End a run early. -/
def fail {α : Type} (message : String) : Run m α :=
  throw (.failed message)

/-- What something gives, or the end of the run. -/
def orFail {α : Type} (message : String) : Option α → Run m α
  | some a => pure a
  | none => fail message

/-- Print some lines. -/
def printLines (sys : System m) (lines : List String) : Run m Unit :=
  sys.print (String.join (lines.map (· ++ "\n")))

/-- The path of a file that is kept in the home directory unless another one is named. -/
def pathOf (sys : System m) (named : Option String) (file : String) : Run m String :=
  match named with
  | some path => pure path
  | none => do return (← sys.home) ++ "/.gridpilot/" ++ file

/-- The text of a file that may be missing; `none` if the file is there and cannot be read. -/
def readIfExists (sys : System m) (path : String) : Run m (Option (Option String)) := do
  if ← sys.exists? path then return (← sys.read? path).map some
  else return some none

/-- The settings in the file that was named, or else in the one in the home directory, as far as there
is one. -/
def loadSettings (sys : System m) (format : Format) (named : Option String) : Run m Settings :=
  match named with
  | some path => do
    orFail ("failed to read config " ++ path) (Settings.load? format (← sys.read? path))
  | none => do
    let path ← pathOf sys none "config.yaml"
    return (Settings.load? format (← sys.read? path)).getD {}

/-- Load everything. -/
def Session.load (sys : System m) (format : Format) (options : Options) : Run m Session := do
  let settings ← loadSettings sys format options.config
  let workbookPath ← pathOf sys options.workbook "workbook.yaml"
  let historyPath ← pathOf sys options.history "history.yaml"
  let book ← orFail ("failed to load workbook " ++ workbookPath)
    ((← readIfExists sys workbookPath).bind (Workbook.load? format))
  let history ← orFail ("failed to load history " ++ historyPath)
    ((← readIfExists sys historyPath).bind (History.load? format settings.undoDepth))
  return { book, editor := { Editor.ofSettings settings with history }, workbookPath, historyPath }

/-- Save everything. -/
def Session.save (sys : System m) (format : Format) (s : Session) : Run m Unit := do
  unless ← sys.write s.workbookPath (s.book.save format) do
    fail ("failed to save workbook " ++ s.workbookPath)
  unless ← sys.write s.historyPath (s.editor.history.save format) do
    fail ("failed to save history " ++ s.historyPath)

/-- The replies in some files, or the one in the input if no file is named. -/
def readReplies (sys : System m) (files : List String) : Run m (List String) :=
  if files = [] then do return [← orFail "failed to read stdin" (← sys.input?)]
  else files.mapM fun file => do orFail ("failed to read " ++ file) (← sys.read? file)

/-! ## The tasks -/

/-- Take a step with the documents of a session. -/
def Session.step {α : Type} (s : Session)
    (f : Editor → Workbook → Except Stop (α × Editor × Workbook)) : Run m (α × Session) :=
  match f s.editor s.book with
  | .ok (a, editor, book) => pure (a, { s with editor, book })
  | .error why => throw (.stopped why)

/-- The lines that show a turn. -/
def turnLines (json : Bool) (turn : Turn) : List String :=
  if json then [Json.render turn.report] else turn.lines

/-- Run a reply. The result says whether it went well. -/
def applyReply (sys : System m) (json : Bool) (s : Session) (reply : String) :
    Run m (Bool × Session) := do
  let (turn, s) ← s.step fun editor book => editor.runTurn Workbook.host reply book
  printLines sys (turnLines json turn)
  return (turn.isClean, s)

/-- Run several replies one after another. -/
def applyReplies (sys : System m) (json : Bool) :
    List String → Session → Run m (Bool × Session)
  | [], s => pure (true, s)
  | reply :: replies, s => do
    let (clean, s) ← applyReply sys json s reply
    let (cleanRest, s) ← applyReplies sys json replies s
    return (clean && cleanRest, s)

/-- Show the active sheet below a blank line. -/
def showSheet (sys : System m) (s : Session) : Run m Unit := do
  printLines sys [""]
  match s.book.activeSheet? with
  | some sheet => printLines sys [sheet.display]
  | none => throw (.stopped .noSheet)

/-- Run a task. The result says whether it went well. -/
def runTask (sys : System m) (format : Format) (options : Options) : Task → Run m Bool
  | .apply files json => do
    let replies ← readReplies sys files
    let s ← Session.load sys format options
    let (clean, s) ← applyReplies sys json replies s
    s.save sys format
    unless json do showSheet sys s
    return clean
  | .check files => do
    let turns := (← readReplies sys files).map Turn.preview
    printLines sys (turns.flatMap Turn.lines)
    return turns.all Turn.isClean
  | .undo => do
    let s ← Session.load sys format options
    let (outcome, s) ← s.step fun editor book => editor.undo Workbook.host book
    printLines sys outcome.lines
    s.save sys format
    return outcome.success

/-- Run with some arguments. -/
def run (sys : System m) (format : Format) (args : List String) : m Exit :=
  match Request.parse? args with
  | none => pure .usage
  | some .version => do
    sys.print (versionLine ++ "\n")
    return .success
  | some (.run task options) => do
    match ← (runTask sys format options task).run with
    | .ok clean => return .ofClean clean
    | .error exit => return exit

end

end SheetScript.CommandLine
