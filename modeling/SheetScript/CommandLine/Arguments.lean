/-!
# Arguments of the command line

The command line names a task: to apply replies, to check them, or to undo the last batch. Options give
the files to work on. They may stand before or after the task, once on either side; what stands after
the task counts.

- `Token`, `tokens`: the arguments, sorted.
- `Task`, `Options`, `Request`: what is asked for.
- `Request.parse?`: the request that some arguments make.
-/

namespace SheetScript.CommandLine

/-! ## Tokens -/

/-- The files that an option can name. -/
inductive Role where
  | workbook
  | history
  | config
deriving DecidableEq, Repr

/-- The options. -/
def Role.all : List Role := [workbook, history, config]

/-- The option that names a file. -/
def Role.option : Role → String
  | workbook => "--workbook"
  | history => "--history"
  | config => "--config"

/-- An argument, with its value if it is an option. -/
inductive Token where
  | file (role : Role) (path : String)
  | json
  | version
  /-- Everything after it is a word. -/
  | stop
  | word (text : String)
  /-- An option that does not exist or lacks its value. -/
  | invalid
deriving DecidableEq, Repr

/-- Whether an argument looks like an option. A dash alone does not. -/
def isOption (arg : String) : Bool :=
  arg.toList.head? == some '-' && arg != "-"

/-- Whether an argument can be the value of the option before it. -/
def isValue (arg : String) : Bool :=
  arg != "" && !isOption arg

/-- The option that stands at the start of an argument, with the value behind the equals sign. -/
def assignment? (arg : String) : Option (Role × String) :=
  Role.all.findSome? fun role =>
    let start := (role.option ++ "=").toList
    if start.isPrefixOf arg.toList then
      some (role, String.ofList (arg.toList.drop start.length))
    else none

/-- Whether an argument asks for the version. Behind the letter of the short option other letters may
follow. -/
def isVersion (arg : String) : Bool :=
  arg == "--version" || ['-', 'V'].isPrefixOf arg.toList

/-- The token for an argument that stands for itself. -/
def tokenOf (arg : String) : Token :=
  if arg = "--json" then .json
  else if isVersion arg then .version
  else if isOption arg then
    match assignment? arg with
    | some (role, path) => if path = "" then .invalid else .file role path
    | none => .invalid
  else .word arg

/-- The tokens of some arguments. `pending` is an option that waits for its value, and `stopped` says
whether everything is a word. -/
def tokensFrom (pending : Option Role) (stopped : Bool) : List String → List Token
  | [] => if pending.isSome then [.invalid] else []
  | arg :: args =>
    match pending with
    | some role =>
      (if isValue arg then .file role arg else .invalid) :: tokensFrom none stopped args
    | none =>
      if stopped then .word arg :: tokensFrom none true args
      else if arg = "--" then .stop :: tokensFrom none true args
      else
        match Role.all.find? (·.option == arg) with
        | some role => tokensFrom (some role) false args
        | none => tokenOf arg :: tokensFrom none false args

/-- The tokens of some arguments. -/
def tokens (args : List String) : List Token :=
  tokensFrom none false args

/-! ## Requests -/

/-- The files that were named. -/
structure Options where
  workbook : Option String := none
  history : Option String := none
  config : Option String := none
deriving DecidableEq, Repr

namespace Options

/-- The file that was named for a role. -/
def get (o : Options) : Role → Option String
  | .workbook => o.workbook
  | .history => o.history
  | .config => o.config

/-- Name a file. No file is named twice. -/
def set? (o : Options) (role : Role) (path : String) : Option Options :=
  if (o.get role).isSome then none
  else
    match role with
    | .workbook => some { o with workbook := some path }
    | .history => some { o with history := some path }
    | .config => some { o with config := some path }

/-- The files named after the task, and otherwise those named before it. -/
def orElse (after before : Options) : Options where
  workbook := after.workbook <|> before.workbook
  history := after.history <|> before.history
  config := after.config <|> before.config

end Options

/-- What is to be done. Without files the reply is read from the input. -/
inductive Task where
  | apply (files : List String) (json : Bool)
  | check (files : List String)
  | undo
deriving DecidableEq, Repr

namespace Task

/-- The task with a name. -/
def ofName? : String → Option Task
  | "apply" => some (apply [] false)
  | "check" => some (check [])
  | "undo" => some undo
  | _ => none

/-- A task with one more file, if it takes files. A file has a name. -/
def addFile? (file : String) : Task → Option Task
  | apply files json => if file = "" then none else some (apply (files ++ [file]) json)
  | check files => if file = "" then none else some (check (files ++ [file]))
  | undo => none

/-- A task that reports as JSON, if it can and was not asked to before. -/
def asJson? : Task → Option Task
  | apply files false => some (apply files true)
  | _ => none

end Task

/-- What is asked for. -/
inductive Request where
  | version
  | run (task : Task) (options : Options)
deriving DecidableEq, Repr

namespace Request

/-- The rest of a request, after the name of its task. -/
def afterTask? (before : Options) : Task → Options → List Token → Option Request
  | task, after, [] => some (.run task (after.orElse before))
  | task, after, .file role path :: ts => do afterTask? before task (← after.set? role path) ts
  | task, after, .word file :: ts => do afterTask? before (← task.addFile? file) after ts
  | task, after, .json :: ts => do afterTask? before (← task.asJson?) after ts
  | task, after, .stop :: ts => afterTask? before task after ts
  | _, _, .version :: _ | _, _, .invalid :: _ => none

/-- A request up to the name of its task. -/
def beforeTask? : Options → List Token → Option Request
  | before, .file role path :: ts => do beforeTask? (← before.set? role path) ts
  | before, .word name :: ts => do afterTask? before (← Task.ofName? name) {} ts
  | _, .version :: _ => some .version
  | _, .json :: _ | _, .stop :: _ | _, .invalid :: _ | _, [] => none

/-- The request that some arguments make. -/
def parse? (args : List String) : Option Request :=
  beforeTask? {} (tokens args)

end Request

end SheetScript.CommandLine
