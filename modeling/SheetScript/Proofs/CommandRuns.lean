import SheetScript.CommandLine.Run
import SheetScript.Proofs.Alike
import SheetScript.Proofs.Changes
import SheetScript.Proofs.Directories
import SheetScript.Proofs.Rereading

/-!
# Runs in memory

What a run does with a directory, one step after another: it reads texts, loads a session, runs replies
and writes two files. Only printing and writing change the directory.

- `runReplies`, `runReplies_cases`: replies one after another, without the surroundings. They run through
  unless a sort stops everything.
- `Loaded`, `run_load_of_loaded`, `run_load_cases`: what a session is loaded from.
- `run_readReplies`, `run_applyReplies`, `run_save`: the other steps of a run.
-/

namespace SheetScript

/-! ## Turns one after another -/

/-- The turns of some replies, and the editor and the workbook after them. -/
def runReplies : List String → Editor → Workbook → Except Stop (List Turn × Editor × Workbook)
  | [], ed, w => .ok ([], ed, w)
  | reply :: replies, ed, w => do
    let (turn, ed, w) ← ed.runTurn Workbook.host reply w
    let (turns, ed, w) ← runReplies replies ed w
    return (turn :: turns, ed, w)

section

variable {ed ed' ed₁ : Editor} {w w' w₁ : Workbook} {turn : Turn} {turns : List Turn} {reply : String}
  {replies : List String} {why : Stop}

/-- A reply that runs through is followed by the others. -/
theorem runReplies_cons (h : ed.runTurn Workbook.host reply w = .ok (turn, ed₁, w₁))
    (hrest : runReplies replies ed₁ w₁ = .ok (turns, ed', w')) :
    runReplies (reply :: replies) ed w = .ok (turn :: turns, ed', w') := by
  rw [runReplies, h]
  show (runReplies replies ed₁ w₁).bind _ = _
  rw [hrest]
  rfl

/-- Replies that ran through ran one after another. -/
theorem runReplies_cons_eq_ok (h : runReplies (reply :: replies) ed w = .ok (turns, ed', w')) :
    ∃ turn ed₁ w₁ turns', ed.runTurn Workbook.host reply w = .ok (turn, ed₁, w₁) ∧
      runReplies replies ed₁ w₁ = .ok (turns', ed', w') ∧ turns = turn :: turns' := by
  obtain ⟨⟨turn, ed₁, w₁⟩, hturn, h⟩ := bind_eq_ok h
  obtain ⟨⟨turns', ed₂, w₂⟩, hrest, h⟩ := bind_eq_ok h
  cases h
  exact ⟨turn, ed₁, w₁, turns', hturn, hrest, rfl⟩

/-- If replies are stopped, then the first one is, or the others after it. -/
theorem runReplies_cons_eq_error (h : runReplies (reply :: replies) ed w = .error why) :
    ed.runTurn Workbook.host reply w = .error why ∨
      ∃ turn ed₁ w₁, ed.runTurn Workbook.host reply w = .ok (turn, ed₁, w₁) ∧
        runReplies replies ed₁ w₁ = .error why := by
  rcases bind_eq_error h with hturn | ⟨⟨turn, ed₁, w₁⟩, hturn, h⟩
  · exact Or.inl hturn
  · rcases bind_eq_error h with hrest | ⟨_, -, h⟩
    · exact Or.inr ⟨turn, ed₁, w₁, hturn, hrest⟩
    · cases h

/-- Replies run through, unless a sort stops everything. -/
theorem runReplies_cases (replies : List String) (ed : Editor) (hw : w.sheets ≠ []) :
    (∃ turns ed' w', runReplies replies ed w = .ok (turns, ed', w')) ∨
      runReplies replies ed w = .error .disorder := by
  induction replies generalizing ed w with
  | nil => exact Or.inl ⟨[], ed, w, rfl⟩
  | cons reply replies ih =>
    rcases ed.runTurn_answers Workbook.answers_sheets reply hw with
      ⟨turn, ed₁, w₁, hturn, hw₁⟩ | ⟨_, hturn, rfl⟩
    · rcases ih ed₁ hw₁ with ⟨turns, ed', w', hrest⟩ | hrest
      · exact Or.inl ⟨turn :: turns, ed', w', runReplies_cons hturn hrest⟩
      · refine Or.inr ?_
        rw [runReplies, hturn]
        show (runReplies replies ed₁ w₁).bind _ = _
        rw [hrest]
        rfl
    · refine Or.inr ?_
      rw [runReplies, hturn]
      rfl

end

namespace CommandLine

open Directory (system)

/-! ## Calls of the surroundings -/

namespace Directory

variable {d : Directory} {p : Path}

/-- The document that a path leads to. It is missing if nothing is there, and cannot be read if a
directory is there. -/
def document? (d : Directory) (p : Path) : Option (Option String) :=
  match d.walk p with
  | .folder => none
  | .file _ text => some (some text)
  | _ => some none

/-- A text that can be read is the document at its path. -/
theorem document?_of_textAt? {text : String} (h : d.textAt? p = some text) :
    d.document? p = some (some text) := by
  rw [textAt?] at h
  split at h
  next l _ hwalk =>
    cases h
    rw [document?, hwalk]
  · cases h

/-- The path of a file that is kept in the home directory unless another one is named. -/
def pathFor (d : Directory) (named : Option String) (file : String) : String :=
  named.getD (locationText d.home ++ "/.gridpilot/" ++ file)

/-- The directory after some lines were printed. -/
def printed (d : Directory) (lines : List String) : Directory :=
  { d with output := d.output ++ String.join (lines.map (· ++ "\n")) }

@[simp] theorem printed_nil : d.printed [] = d := by
  simp [printed]

/-- Lines are printed one after another. -/
theorem printed_append (lines lines' : List String) :
    d.printed (lines ++ lines') = (d.printed lines).printed lines' := by
  simp [printed, String.join_append, String.append_assoc]

/-- Printing changes nothing that a path leads to. -/
theorem walk_printed (lines : List String) : (d.printed lines).walk p = d.walk p := by
  have hsame : ∀ (steps : List Step) (l : Location),
      (d.printed lines).walkFrom l steps = d.walkFrom l steps := by
    intro steps
    induction steps with
    | nil => exact fun _ => rfl
    | cons step steps ih =>
      intro l
      cases step with
      | here => exact ih l
      | up => exact ih l.dropLast
      | down name =>
        rw [walkFrom_down, walkFrom_down, ih]
        rfl
  exact hsame _ _

theorem fileAt?_printed (lines : List String) : (d.printed lines).fileAt? p = d.fileAt? p := by
  rw [fileAt?, walk_printed, fileAt?]

theorem textAt?_printed (lines : List String) : (d.printed lines).textAt? p = d.textAt? p := by
  rw [textAt?, walk_printed, textAt?]

/-- The texts of the replies in some files. -/
def texts (d : Directory) (files : List String) : List String :=
  files.filterMap fun file => d.textAt? (.ofText file)

/-- The replies in some files start with the one in the first file. -/
theorem texts_cons {file text : String} {files : List String}
    (h : d.textAt? (.ofText file) = some text) : d.texts (file :: files) = text :: d.texts files := by
  rw [texts, List.filterMap_cons, h]
  rfl

theorem run_read?_eq_walk (d : Directory) (path : String) :
    system.read? path d =
      (match d.walk (.ofText path) with
        | .file _ text => pure (some text)
        | _ => pure none : StateM Directory (Option String)) d := rfl

/-- Reading a path gives the text there and changes nothing. -/
theorem run_read? (d : Directory) (path : String) :
    system.read? path d = (d.textAt? (.ofText path), d) := by
  rw [run_read?_eq_walk, textAt?]
  cases d.walk (.ofText path) <;> rfl

theorem run_exists? (d : Directory) (path : String) :
    system.exists? path d =
      ((match d.walk (.ofText path) with
        | .folder | .file _ _ => true
        | _ => false), d) := by
  show (match d.walk (.ofText path) with
    | .folder | .file _ _ => pure true
    | _ => pure false : StateM Directory Bool) d = _
  cases d.walk (.ofText path) <;> rfl

end Directory

variable {d : Directory} {format : Format} {options : Options} {settings : Settings} {s : Session}

theorem run_lift {ε σ α : Type} (x : StateM σ α) (s : σ) :
    (liftM x : ExceptT ε (StateM σ) α).run s = (.ok (x s).1, (x s).2) := rfl

/-- A document that may be missing is read, and nothing is changed. -/
theorem run_readIfExists (d : Directory) (path : String) :
    (readIfExists system path).run d = (.ok (d.document? (.ofText path)), d) := by
  rw [readIfExists, run_step_bind, run_lift, Directory.run_exists?, Directory.document?]
  have hread : ((do return (← system.read? path).map some) :
      Run (StateM Directory) (Option (Option String))).run d =
        (.ok ((d.textAt? (.ofText path)).map some), d) := by
    rw [run_step_bind, run_lift, Directory.run_read?]
    rfl
  rw [Directory.textAt?] at hread
  cases hwalk : d.walk (.ofText path) <;> rw [hwalk] at hread
  · exact hread
  · exact hread
  · rfl
  · rfl
  · rfl

/-- The path of a file does not depend on what is there. -/
theorem run_pathOf (d : Directory) (named : Option String) (file : String) :
    (pathOf system named file).run d = (.ok (d.pathFor named file), d) := by
  cases named <;> rfl

theorem run_orFail {α : Type} (message : String) (a : Option α) (d : Directory) :
    (orFail message a : Run (StateM Directory) α).run d =
      match a with
      | some a => (.ok a, d)
      | none => (.error (.failed message), d) := by
  cases a <;> rfl

/-! ## Loading -/

/-- The settings in a file. A file that was not named may be missing, or not fit. -/
def settingsOf (format : Format) (named file : Option String) : Except Exit Settings :=
  match Settings.load? format file with
  | some settings => .ok settings
  | none =>
    match named with
    | none => .ok {}
    | some path => .error (.failed ("failed to read config " ++ path))

/-- Settings that cannot be loaded end a run with a message. -/
theorem exists_failed_of_settingsOf {named file : Option String} {exit : Exit}
    (h : settingsOf format named file = .error exit) : ∃ message, exit = .failed message := by
  unfold settingsOf at h
  split at h
  · cases h
  · split at h
    · cases h
    · cases h
      exact ⟨_, rfl⟩

/-- The settings come from the file that was named, or from the one in the home directory. -/
theorem run_loadSettings (d : Directory) (format : Format) (named : Option String) :
    (loadSettings system format named).run d =
      (settingsOf format named (d.textAt? (.ofText (d.pathFor named "config.yaml"))), d) := by
  unfold settingsOf
  cases named with
  | none =>
    rw [loadSettings, run_step_bind, run_pathOf]
    dsimp only
    rw [run_step_bind, run_lift, Directory.run_read?]
    dsimp only
    cases Settings.load? format (d.textAt? (.ofText (d.pathFor none "config.yaml"))) <;> rfl
  | some path =>
    rw [loadSettings, run_step_bind, run_lift, Directory.run_read?]
    dsimp only
    rw [run_orFail, show d.pathFor (some path) "config.yaml" = path from rfl]
    cases Settings.load? format (d.textAt? (.ofText path)) <;> rfl

/-- What a session is when it is loaded with some settings. -/
structure Loaded (format : Format) (options : Options) (settings : Settings) (d : Directory)
    (s : Session) : Prop where
  settings_eq : settingsOf format options.config
    (d.textAt? (.ofText (d.pathFor options.config "config.yaml"))) = .ok settings
  workbookPath_eq : s.workbookPath = d.pathFor options.workbook "workbook.yaml"
  historyPath_eq : s.historyPath = d.pathFor options.history "history.yaml"
  book_eq : (d.document? (.ofText s.workbookPath)).bind (Workbook.load? format) = some s.book
  history_eq : (d.document? (.ofText s.historyPath)).bind
    (History.load? format settings.undoDepth) = some s.editor.history
  copyLimit_eq : s.editor.copyLimit = settings.copyLimit

/-- A session is loaded from the settings, the workbook and the history, and the first of them that is
not there or does not fit ends the run with a message. -/
theorem run_load (d : Directory) (format : Format) (options : Options) :
    (Session.load system format options).run d =
      match settingsOf format options.config
        (d.textAt? (.ofText (d.pathFor options.config "config.yaml"))) with
      | .error exit => (.error exit, d)
      | .ok settings =>
        let workbookPath := d.pathFor options.workbook "workbook.yaml"
        let historyPath := d.pathFor options.history "history.yaml"
        match (d.document? (.ofText workbookPath)).bind (Workbook.load? format) with
        | none => (.error (.failed ("failed to load workbook " ++ workbookPath)), d)
        | some book =>
          match (d.document? (.ofText historyPath)).bind
            (History.load? format settings.undoDepth) with
          | none => (.error (.failed ("failed to load history " ++ historyPath)), d)
          | some history =>
            (.ok ⟨book, { Editor.ofSettings settings with history }, workbookPath, historyPath⟩,
              d) := by
  rw [Session.load, run_step_bind, run_loadSettings]
  cases settingsOf format options.config
    (d.textAt? (.ofText (d.pathFor options.config "config.yaml"))) with
  | error exit => rfl
  | ok settings =>
    simp only [run_step_bind, run_pathOf, run_readIfExists, run_orFail]
    cases (d.document? (.ofText (d.pathFor options.workbook "workbook.yaml"))).bind
        (Workbook.load? format) with
    | none => rfl
    | some book =>
      dsimp only
      cases (d.document? (.ofText (d.pathFor options.history "history.yaml"))).bind
        (History.load? format settings.undoDepth) <;> rfl

/-- A session that is what its files say is loaded from them. -/
theorem run_load_of_loaded (h : Loaded format options settings d s) :
    (Session.load system format options).run d = (.ok s, d) := by
  obtain ⟨book, ⟨history, copyLimit⟩, workbookPath, historyPath⟩ := s
  obtain ⟨hsettings, rfl, rfl, hbook, hhistory, rfl⟩ := h
  dsimp only at hbook hhistory
  rw [run_load, hsettings]
  dsimp only
  rw [hbook, hhistory]
  rfl

/-- Loading changes nothing, and it gives a session or fails with a message. -/
theorem run_load_cases (d : Directory) (format : Format) (options : Options) :
    (∃ settings s, Loaded format options settings d s) ∨
      ∃ message, (Session.load system format options).run d = (.error (.failed message), d) := by
  rw [run_load]
  split
  next exit hsettings =>
    obtain ⟨message, rfl⟩ := exists_failed_of_settingsOf hsettings
    exact Or.inr ⟨message, rfl⟩
  next settings hsettings =>
    dsimp only
    split
    · exact Or.inr ⟨_, rfl⟩
    next book hbook =>
      split
      · exact Or.inr ⟨_, rfl⟩
      next history hhistory =>
        refine Or.inl ⟨settings, ⟨book, ⟨history, settings.copyLimit⟩,
          d.pathFor options.workbook "workbook.yaml", d.pathFor options.history "history.yaml"⟩, ?_⟩
        exact ⟨hsettings, rfl, rfl, hbook, hhistory, rfl⟩

/-! ## Reading the replies -/

/-- All replies are read at once, each from its file. -/
theorem run_readReplies {files : List String} (hne : files ≠ [])
    (h : ∀ file ∈ files, (d.textAt? (.ofText file)).isSome) :
    (readReplies system files).run d = (.ok (d.texts files), d) := by
  rw [readReplies, if_neg hne, Directory.texts]
  clear hne
  induction files with
  | nil => rfl
  | cons file files ih =>
    rw [List.forall_mem_cons] at h
    obtain ⟨text, htext⟩ := Option.isSome_iff_exists.mp h.1
    have hfirst : ((do orFail ("failed to read " ++ file) (← system.read? file)) :
        Run (StateM Directory) String).run d = (.ok text, d) := by
      rw [run_step_bind, run_lift, Directory.run_read?, htext]
      rfl
    rw [List.mapM_cons, run_step_bind, hfirst]
    dsimp only
    rw [run_step_bind, ih h.2, List.filterMap_cons, htext]
    rfl

/-! ## Running and saving -/

/-- A reply that runs through prints the lines of its turn. -/
theorem run_applyReply {json : Bool} {reply : String} {turn : Turn} {ed' : Editor} {w' : Workbook}
    (h : s.editor.runTurn Workbook.host reply s.book = .ok (turn, ed', w')) (d : Directory) :
    (applyReply system json s reply).run d =
      (.ok (turn.isClean, { s with editor := ed', book := w' }), d.printed (turnLines json turn)) := by
  rw [applyReply, run_step_bind, Session.step, h]
  rfl

/-- Replies that run through print the lines of their turns one after another, and the run is clean if
all turns are. -/
theorem run_applyReplies {json : Bool} {replies : List String} {turns : List Turn} {ed' : Editor}
    {w' : Workbook} (h : runReplies replies s.editor s.book = .ok (turns, ed', w'))
    (d : Directory) :
    (applyReplies system json replies s).run d =
      (.ok (turns.all (·.isClean), { s with editor := ed', book := w' }),
        d.printed (turns.flatMap (turnLines json))) := by
  induction replies generalizing s d turns with
  | nil =>
    cases h
    rw [List.flatMap_nil, Directory.printed_nil]
    rfl
  | cons reply replies ih =>
    obtain ⟨turn, ed₁, w₁, turns', hturn, hrest, rfl⟩ := runReplies_cons_eq_ok h
    rw [applyReplies, run_step_bind, run_applyReply hturn]
    dsimp only
    rw [run_step_bind, ih hrest, List.flatMap_cons, Directory.printed_append]
    rfl

/-- Replies that are stopped stop the run. -/
theorem run_applyReplies_stopped {replies : List String} {why : Stop}
    (h : runReplies replies s.editor s.book = .error why) (json : Bool) (d : Directory) :
    ∃ d', (applyReplies system json replies s).run d = (.error (.stopped why), d') := by
  induction replies generalizing s d with
  | nil => cases h
  | cons reply replies ih =>
    rw [applyReplies, run_step_bind]
    rcases runReplies_cons_eq_error h with hturn | ⟨turn, ed₁, w₁, hturn, hrest⟩
    · rw [applyReply, run_step_bind, Session.step, hturn]
      exact ⟨d, rfl⟩
    · obtain ⟨d', hstopped⟩ := @ih { s with editor := ed₁, book := w₁ } hrest
        (d.printed (turnLines json turn))
      rw [run_applyReply hturn]
      dsimp only
      rw [run_step_bind, hstopped]
      exact ⟨d', rfl⟩

/-- A session is saved if both its files can be written. -/
theorem run_save {d' : Directory}
    (h : d.writeBoth (.ofText s.workbookPath) (.ofText s.historyPath) (s.book.save format)
      (s.editor.history.save format) = (true, d')) :
    (s.save system format).run d = (.ok (), d') := by
  rw [Directory.writeBoth] at h
  split at h
  next d₁ hfirst =>
    rw [Session.save, run_step_bind, run_lift,
      show system.write s.workbookPath (s.book.save format) d = (true, d₁) from hfirst]
    show ((do
        unless ← system.write s.historyPath (s.editor.history.save format) do
          fail ("failed to save history " ++ s.historyPath)) : Run (StateM Directory) Unit).run d₁ = _
    rw [run_step_bind, run_lift,
      show system.write s.historyPath (s.editor.history.save format) d₁ = (true, d') from h]
    rfl
  · cases h

/-! ## Whole runs -/

/-- A run ends as its task does. -/
theorem run_of_parse? {args : List String} {task : Task}
    (hargs : Request.parse? args = some (.run task options)) (d : Directory) :
    (run system format args).run d =
      match (runTask system format options task).run d with
      | (.ok clean, d) => (Exit.ofClean clean, d)
      | (.error exit, d) => (exit, d) := by
  rw [run, hargs]
  dsimp only
  rw [StateT.run_bind]
  rcases htask : (runTask system format options task).run d with ⟨result, d'⟩
  rw [show StateT.run (runTask system format options task).run d = (result, d') from htask]
  cases result <;> rfl

end CommandLine

end SheetScript
