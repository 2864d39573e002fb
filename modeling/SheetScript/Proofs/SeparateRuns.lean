import SheetScript.Proofs.CommandRuns
import SheetScript.Proofs.Reloading

/-!
# Replies in one run and in separate runs

Replies can be run all at once, or one by one, where each run loads what the last one saved. Both leave
the same files and print the same lines, as long as the workbook and the history can be saved, in two
files, and nothing else that is read is touched by that. A sort that stops everything stops the one run
before anything is saved, and one of the separate runs.

- `Directory.Separate`, `Directory.Saves`: where a workbook and a history go, whatever is written.
- `Ready.run_apply`: what a run leaves; `Ready.after`: the next run starts from there.
- `Ready.mapM_run`: what separate runs leave; `Ready.stopped_mem_mapM_run`: one of them is stopped.
- `run_apply_eq_runs`: one run and separate runs leave and print the same.
-/

namespace SheetScript

/-! ## What the next run takes up -/

/-- The events of a session in which replies run and each one is followed by a reload. -/
def reloadedTurns (replies : List String) : List Event :=
  replies.flatMap fun reply => [.interaction (.turn reply), .reload]

section

variable {ed ed₁ : Editor} {w w₁ : Workbook} {turn : Turn} {reply : String}
  {replies : List String}

/-- After a reply that runs through, the workbook and the history after it are written. -/
theorem storedTrees_reloadedTurns_cons
    (h : ed.runTurn Workbook.host reply w = .ok (turn, ed₁, w₁)) :
    storedTrees (reloadedTurns (reply :: replies)) ed w =
      w₁.toValue :: ed₁.history.toValue :: storedTrees (reloadedTurns replies) ed₁ w₁ := by
  have hrun : (Interaction.turn reply).run ed w = .ok (.turn turn, ed₁, w₁) := by
    rw [Interaction.run, h]
    rfl
  simp [reloadedTurns, storedTrees, hrun]

/-- A history that is loaded with a depth can be stored. -/
theorem History.storable_of_load? {format : Format} {depth : Nat} {file : Option String}
    {h : History} (hload : load? format depth file = some h) : h.Storable depth := by
  cases file with
  | none =>
    cases hload
    exact ⟨rfl, Nat.zero_le _, kindsNamed_withDepth depth⟩
  | some text =>
    obtain ⟨stored, hread, rfl⟩ := Option.map_eq_some_iff.mp hload
    obtain ⟨v, -, hdecode⟩ := Option.bind_eq_some_iff.mp hread
    rw [toOption_eq_some_iff] at hdecode
    exact .of_setDepth (kindsNamed_of_ofValue hdecode) depth

end

namespace CommandLine

open Directory (system)

/-! ## Where a workbook and a history go -/

namespace Directory

variable {d : Directory} {p q : Path} {others : List Path} {folders : List Location} {l m : Location}

/-- Two files can be written, they lie at two places, and what other paths lead to stays as it is. The
texts do not matter for that, so it is said with empty ones. -/
structure Separate (d : Directory) (p q : Path) (others : List Path) : Prop where
  written : (d.writeBoth p q "" "").1 = true
  apart : (d.writeBoth p q "" "").2.fileAt? p ≠ (d.writeBoth p q "" "").2.fileAt? q
  untouched : ∀ r ∈ others,
    (d.writeBoth p q "" "").2.fileAt? r ≠ (d.writeBoth p q "" "").2.fileAt? p ∧
      (d.writeBoth p q "" "").2.fileAt? r ≠ (d.writeBoth p q "" "").2.fileAt? q ∧
      (d.writeBoth p q "" "").2.textAt? r = d.textAt? r

instance (d : Directory) (p q : Path) (others : List Path) : Decidable (d.Separate p q others) :=
  decidable_of_iff
    ((d.writeBoth p q "" "").1 = true ∧
      (d.writeBoth p q "" "").2.fileAt? p ≠ (d.writeBoth p q "" "").2.fileAt? q ∧
      ∀ r ∈ others,
        (d.writeBoth p q "" "").2.fileAt? r ≠ (d.writeBoth p q "" "").2.fileAt? p ∧
          (d.writeBoth p q "" "").2.fileAt? r ≠ (d.writeBoth p q "" "").2.fileAt? q ∧
          (d.writeBoth p q "" "").2.textAt? r = d.textAt? r)
    ⟨fun ⟨hwritten, hapart, huntouched⟩ => ⟨hwritten, hapart, huntouched⟩,
      fun h => ⟨h.written, h.apart, h.untouched⟩⟩

/-- Whatever two texts are written, and whatever was printed before, they go to two places and leave
what other paths lead to. -/
structure Saves (d : Directory) (p q : Path) (others : List Path) (folders : List Location)
    (l m : Location) : Prop where
  written : ∀ e, d.Alike e → ∀ text text',
    e.writeBoth p q text text' = (true, e.withBoth folders l m text text')
  first : ∀ text text', (d.withBoth folders l m text text').fileAt? p = some l
  second : ∀ text text', (d.withBoth folders l m text text').fileAt? q = some m
  ne : l ≠ m
  untouched : ∀ r ∈ others, ∀ text text',
    (d.withBoth folders l m text text').textAt? r = d.textAt? r

theorem Alike.refl (d : Directory) : d.Alike d :=
  ⟨rfl, rfl, rfl⟩

/-- Whatever texts are written to two files, the directories are alike. -/
theorem alike_withBoth (d : Directory) (folders : List Location) (l m : Location)
    (text text' other other' : String) :
    (d.withBoth folders l m text text').Alike (d.withBoth folders l m other other') where
  home := rfl
  folders := rfl
  places := by simp [withBoth]

/-- Texts that are written again replace the ones before. -/
theorem withBoth_withBoth (d : Directory) (folders folders' : List Location) (l m : Location)
    (text text' other other' : String) :
    (d.withBoth folders l m text text').withBoth folders' l m other other' =
      d.withBoth folders' l m other other' := by
  simp [withBoth, List.filter_append, List.filter_filter]

/-- Two files that were written are there. -/
theorem exists_fileAt?_of_writeBoth {text text' : String}
    (h : (d.writeBoth p q text text').1 = true) :
    ∃ l m, (d.writeBoth p q text text').2.fileAt? p = some l ∧
      (d.writeBoth p q text text').2.fileAt? q = some m := by
  rcases hfirst : d.write p text with ⟨made, d₁⟩
  cases made with
  | false => simp [writeBoth, hfirst] at h
  | true =>
    simp only [writeBoth, hfirst] at h ⊢
    have hmade : (d.write p text).1 = true := by rw [hfirst]
    obtain ⟨l, -, -, hl⟩ := exists_put_of_write hmade
    rw [hfirst] at hl
    obtain ⟨m, -, -, hm⟩ := exists_put_of_write h
    exact ⟨l, m, (Extends.write d₁ q text').fileAt? hl, hm⟩

/-- That two files can be written, with empty texts, tells where any texts go. -/
theorem Separate.saves (h : d.Separate p q others) :
    ∃ folders l m, d.Saves p q others folders l m := by
  obtain ⟨l, m, hl, hm⟩ := exists_fileAt?_of_writeBoth h.written
  have hne : l ≠ m := by
    have hapart := h.apart
    rw [hl, hm] at hapart
    exact fun heq => hapart (congrArg some heq)
  obtain ⟨folders, hfolders⟩ : ∃ folders, (d.writeBoth p q "" "").2.folders = folders := ⟨_, rfl⟩
  have hwritten : ∀ e, d.Alike e → ∀ text text',
      e.writeBoth p q text text' = (true, e.withBoth folders l m text text') := by
    rw [← hfolders]
    exact fun e halike => writeBoth_eq halike h.written hl hm hne
  have hsaved : (d.writeBoth p q "" "").2 = d.withBoth folders l m "" "" :=
    congrArg Prod.snd (hwritten d (.refl d) "" "")
  have huntouched := h.untouched
  simp only [hl, hm] at huntouched
  rw [hsaved] at hl hm huntouched
  have hfile : ∀ r text text', (d.withBoth folders l m text text').fileAt? r =
      (d.withBoth folders l m "" "").fileAt? r :=
    fun r text text' => (alike_withBoth d folders l m "" "" text text').fileAt? r
  refine ⟨folders, l, m, hwritten, fun text text' => ?_, fun text text' => ?_, hne,
    fun r hr text text' => ?_⟩
  · rw [hfile, hl]
  · rw [hfile, hm]
  · obtain ⟨hp, hq, htext⟩ := huntouched r hr
    rw [← htext, textAt?_eq, textAt?_eq, hfile]
    -- a third place has the text it had before
    cases hplace : (d.withBoth folders l m "" "").fileAt? r with
    | none => rfl
    | some k =>
      rw [hplace] at hp hq
      have hkl : k ≠ l := fun heq => hp (congrArg some heq)
      have hkm : k ≠ m := fun heq => hq (congrArg some heq)
      rw [Option.bind_some, Option.bind_some, lookup_withBoth_other hkl hkm,
        lookup_withBoth_other hkl hkm]

namespace Saves

/-- The first of the two texts can be read where it was written. -/
theorem textAt?_first (h : d.Saves p q others folders l m) (text text' : String) :
    (d.withBoth folders l m text text').textAt? p = some text := by
  rw [textAt?_eq, h.first]
  exact lookup_withBoth_first

theorem textAt?_second (h : d.Saves p q others folders l m) (text text' : String) :
    (d.withBoth folders l m text text').textAt? q = some text' := by
  rw [textAt?_eq, h.second]
  exact lookup_withBoth_second h.ne

/-- Printing changes nothing about where texts go. -/
theorem printed (h : d.Saves p q others folders l m) (lines : List String) :
    (d.printed lines).Saves p q others folders l m where
  written e halike := h.written e ⟨halike.home, halike.folders, halike.places⟩
  first text text' :=
    (fileAt?_printed (d := d.withBoth folders l m text text') lines).trans (h.first text text')
  second text text' :=
    (fileAt?_printed (d := d.withBoth folders l m text text') lines).trans (h.second text text')
  ne := h.ne
  untouched r hr text text' := by
    rw [textAt?_printed]
    exact (textAt?_printed (d := d.withBoth folders l m text text') lines).trans
      (h.untouched r hr text text')

/-- What was written is replaced when something is written again. -/
theorem withBoth (h : d.Saves p q others folders l m) (text text' : String) :
    (d.withBoth folders l m text text').Saves p q others folders l m where
  written e halike other other' := by
    have hp : e.fileAt? p = some l := by rw [halike.fileAt?, h.first]
    have hq : e.fileAt? q = some m := by rw [halike.fileAt?, h.second]
    rw [writeBoth_of_fileAt? hp hq h.ne, halike.folders]
    rfl
  first other other' := by rw [withBoth_withBoth, h.first]
  second other other' := by rw [withBoth_withBoth, h.second]
  ne := h.ne
  untouched r hr other other' := by
    rw [withBoth_withBoth, h.untouched r hr, h.untouched r hr]

end Saves

end Directory

/-! ## From one run to the next -/

variable {d : Directory} {format : Format} {options : Options} {settings : Settings} {s : Session}

/-- Some replies can be read, a session can be loaded, and saving it leaves that so. -/
structure Ready (format : Format) (options : Options) (settings : Settings) (files : List String)
    (folders : List Location) (l m : Location) (d : Directory) (s : Session) : Prop where
  readable : ∀ file ∈ files, (d.textAt? (.ofText file)).isSome
  loaded : Loaded format options settings d s
  saves : d.Saves (.ofText s.workbookPath) (.ofText s.historyPath)
    (.ofText (d.pathFor options.config "config.yaml") :: files.map .ofText) folders l m
  sheets : s.book.sheets ≠ []

/-- The history that is loaded is one that can be stored again. -/
theorem Loaded.storable (h : Loaded format options settings d s) :
    s.editor.history.Storable settings.undoDepth := by
  obtain ⟨file, -, hload⟩ := Option.bind_eq_some_iff.mp h.history_eq
  exact History.storable_of_load? hload

section

variable {args : List String} {file : String} {files files' : List String}
  {folders : List Location} {l m : Location} {turns : List Turn} {ed' : Editor} {w' : Workbook}

/-- The directory that a run leaves. -/
def Directory.afterRun (d : Directory) (format : Format) (folders : List Location) (l m : Location)
    (turns : List Turn) (ed : Editor) (w : Workbook) : Directory :=
  (d.printed (turns.flatMap (turnLines true))).withBoth folders l m (w.save format)
    (ed.history.save format)

/-- What can be read after a run does not depend on what was printed. -/
theorem Directory.textAt?_afterRun {p : Path} :
    (d.afterRun format folders l m turns ed' w').textAt? p =
      (d.withBoth folders l m (w'.save format) (ed'.history.save format)).textAt? p :=
  Directory.textAt?_printed (d := d.withBoth folders l m (w'.save format)
    (ed'.history.save format)) (turns.flatMap (turnLines true))

/-- Two runs leave what one run with the turns of both leaves. -/
theorem Directory.afterRun_afterRun {turns' : List Turn} {ed₁ : Editor} {w₁ : Workbook} :
    (d.afterRun format folders l m turns ed₁ w₁).afterRun format folders l m turns' ed' w' =
      d.afterRun format folders l m (turns ++ turns') ed' w' := by
  rw [afterRun, afterRun, afterRun, List.flatMap_append, Directory.printed_append]
  exact Directory.withBoth_withBoth ((d.printed (turns.flatMap (turnLines true))).printed
    (turns'.flatMap (turnLines true))) _ _ _ _ _ _ _ _

namespace Ready

/-- With fewer replies there is less to be ready for. -/
theorem of_subset (h : Ready format options settings files folders l m d s)
    (hsub : files' ⊆ files) : Ready format options settings files' folders l m d s where
  readable file hfile := h.readable file (hsub hfile)
  loaded := h.loaded
  saves := { h.saves with
    untouched := fun r hr => h.saves.untouched r
      (List.cons_subset_cons _ (List.map_subset _ hsub) hr) }
  sheets := h.sheets

/-- A run applies its replies to the session and saves it. -/
theorem run_apply (h : Ready format options settings files folders l m d s) (hne : files ≠ [])
    (hargs : Request.parse? args = some (.run (.apply files true) options))
    (hturns : runReplies (d.texts files) s.editor s.book = .ok (turns, ed', w')) :
    (run system format args).run d =
      (Exit.ofClean (turns.all (·.isClean)), d.afterRun format folders l m turns ed' w') := by
  have hsave : (Session.save system format { s with editor := ed', book := w' }).run
      (d.printed (turns.flatMap (turnLines true))) =
        (.ok (), d.afterRun format folders l m turns ed' w') :=
    run_save (h.saves.written (d.printed (turns.flatMap (turnLines true))) ⟨rfl, rfl, rfl⟩ _ _)
  have htask : (runTask system format options (.apply files true)).run d =
      (.ok (turns.all (·.isClean)), d.afterRun format folders l m turns ed' w') := by
    rw [runTask, run_step_bind, run_readReplies hne h.readable]
    dsimp only
    rw [run_step_bind, run_load_of_loaded h.loaded]
    dsimp only
    rw [run_step_bind, run_applyReplies hturns]
    dsimp only
    rw [run_step_bind, hsave]
    rfl
  rw [run_of_parse? hargs, htask]

/-- A run whose replies are stopped is stopped. -/
theorem run_apply_stopped (h : Ready format options settings files folders l m d s) (hne : files ≠ [])
    (hargs : Request.parse? args = some (.run (.apply files true) options)) {why : Stop}
    (hstop : runReplies (d.texts files) s.editor s.book = .error why) :
    ((run system format args).run d).1 = .stopped why := by
  obtain ⟨d', hreplies⟩ := run_applyReplies_stopped hstop true d
  rw [run_of_parse? hargs, runTask, run_step_bind, run_readReplies hne h.readable]
  dsimp only
  rw [run_step_bind, run_load_of_loaded h.loaded]
  dsimp only
  rw [run_step_bind, hreplies]

/-- A reply stays what it was. -/
theorem textAt?_file (h : Ready format options settings files folders l m d s)
    (hfile : file ∈ files) :
    (d.afterRun format folders l m turns ed' w').textAt? (.ofText file) =
      d.textAt? (.ofText file) := by
  rw [Directory.textAt?_afterRun]
  exact h.saves.untouched _ (List.mem_cons_of_mem _ (List.mem_map_of_mem hfile)) _ _

/-- The next run is ready to start where the last one stopped. -/
theorem after (h : Ready format options settings files folders l m d s)
    (hlimit : ed'.copyLimit = s.editor.copyLimit)
    (hstorable : ed'.history.Storable settings.undoDepth) (hw' : w'.sheets ≠ [])
    (hbook : format.Keeps w'.toValue) (hhistory : format.Keeps ed'.history.toValue)
    (turns : List Turn) :
    Ready format options settings files folders l m (d.afterRun format folders l m turns ed' w')
      { s with editor := ed', book := w' } := by
  constructor
  case readable =>
    intro file hfile
    rw [h.textAt?_file hfile]
    exact h.readable file hfile
  case loaded =>
    constructor
    case settings_eq =>
      show settingsOf format options.config ((d.afterRun format folders l m turns ed' w').textAt?
        (.ofText (d.pathFor options.config "config.yaml"))) = .ok settings
      rw [Directory.textAt?_afterRun, h.saves.untouched _ List.mem_cons_self]
      exact h.loaded.settings_eq
    case workbookPath_eq => exact h.loaded.workbookPath_eq
    case historyPath_eq => exact h.loaded.historyPath_eq
    case book_eq =>
      rw [Directory.document?_of_textAt?
        (Directory.textAt?_afterRun.trans (h.saves.textAt?_first _ _))]
      exact Workbook.load?_save hbook
    case history_eq =>
      rw [Directory.document?_of_textAt?
        (Directory.textAt?_afterRun.trans (h.saves.textAt?_second _ _))]
      show History.load? format settings.undoDepth (some (ed'.history.save format)) = _
      rw [History.load?_save hstorable.kinds hhistory,
        History.setDepth_eq_self hstorable.depth_eq hstorable.length_le]
    case copyLimit_eq => exact hlimit.trans h.loaded.copyLimit_eq
  case saves => exact (h.saves.printed _).withBoth _ _
  case sheets => exact hw'

/-- A run leaves the other replies as they were. -/
theorem texts_afterRun (h : Ready format options settings files folders l m d s) :
    (d.afterRun format folders l m turns ed' w').texts files = d.texts files :=
  List.filterMap_congr fun _ hfile => h.textAt?_file hfile

end Ready

/-! ## Runs one after another -/

/-- Runs one after another start with the first one, and the others start where it stops. -/
theorem run_mapM_cons {σ α β : Type} {f : α → StateM σ β} {a : α} {as : List α} {x y z : σ} {b : β}
    {bs : List β} (hfirst : (f a).run x = (b, y)) (hrest : (as.mapM f).run y = (bs, z)) :
    ((a :: as).mapM f).run x = (b :: bs, z) := by
  rw [List.mapM_cons, StateT.run_bind, hfirst]
  show StateT.run (as.mapM f >>= fun bs => pure (b :: bs)) y = _
  rw [StateT.run_bind, hrest]
  rfl

theorem fst_run_mapM_cons {σ α β : Type} (f : α → StateM σ β) (a : α) (as : List α) (x : σ) :
    (((a :: as).mapM f).run x).1 =
      ((f a).run x).1 :: ((as.mapM f).run ((f a).run x).2).1 := by
  have hfirst : (f a).run x = (((f a).run x).1, ((f a).run x).2) := rfl
  rw [run_mapM_cons hfirst rfl]
  rfl

section

variable {argsOf : String → List String} {text : String} {turn : Turn} {ed₁ : Editor} {w₁ : Workbook}

/-- The first of several separate runs, and where the others start. -/
theorem Ready.run_first (h : Ready format options settings (file :: files) folders l m d s)
    (hargsOf : Request.parse? (argsOf file) = some (.run (.apply [file] true) options))
    (htext : d.textAt? (.ofText file) = some text)
    (hturn : s.editor.runTurn Workbook.host text s.book = .ok (turn, ed₁, w₁))
    (hkeeps : ∀ v ∈ storedTrees (reloadedTurns (text :: d.texts files)) s.editor s.book,
      format.Keeps v) :
    (run system format (argsOf file)).run d =
        (Exit.ofClean turn.isClean, d.afterRun format folders l m [turn] ed₁ w₁) ∧
      Ready format options settings files folders l m (d.afterRun format folders l m [turn] ed₁ w₁)
        { s with editor := ed₁, book := w₁ } ∧
      (d.afterRun format folders l m [turn] ed₁ w₁).texts files = d.texts files ∧
      ∀ v ∈ storedTrees (reloadedTurns (d.texts files)) ed₁ w₁, format.Keeps v := by
  have hturns : runReplies (d.texts [file]) s.editor s.book = .ok ([turn], ed₁, w₁) := by
    rw [Directory.texts_cons htext]
    exact runReplies_cons hturn rfl
  have hready : Ready format options settings [file] folders l m d s := h.of_subset (by simp)
  have hfirst := hready.run_apply (List.cons_ne_nil _ _) hargsOf hturns
  rw [List.all_cons, List.all_nil, Bool.and_true] at hfirst
  rw [storedTrees_reloadedTurns_cons hturn, List.forall_mem_cons, List.forall_mem_cons] at hkeeps
  obtain ⟨hbook, hhistory, hkeeps⟩ := hkeeps
  have hw₁ : w₁.sheets ≠ [] := by
    rcases s.editor.runTurn_answers Workbook.answers_sheets text h.sheets with
      ⟨_, _, w', hanswers, hw'⟩ | ⟨_, hanswers, -⟩
    · rw [hturn] at hanswers
      cases hanswers
      exact hw'
    · rw [hturn] at hanswers
      cases hanswers
  have hgoes := Editor.goes_runTurn hturn
  have hafter := h.after hgoes.copyLimit (hgoes.storable h.loaded.storable) hw₁ hbook hhistory [turn]
  exact ⟨hfirst, hafter.of_subset (List.subset_cons_self file files),
    (h.of_subset (List.subset_cons_self file files)).texts_afterRun, hkeeps⟩

/-- What separate runs leave is what one run leaves. -/
theorem Ready.mapM_run (h : Ready format options settings files folders l m d s) (hne : files ≠ [])
    (hargsOf : ∀ file ∈ files,
      Request.parse? (argsOf file) = some (.run (.apply [file] true) options))
    (hturns : runReplies (d.texts files) s.editor s.book = .ok (turns, ed', w'))
    (hkeeps : ∀ v ∈ storedTrees (reloadedTurns (d.texts files)) s.editor s.book,
      format.Keeps v) :
    (files.mapM fun file => run system format (argsOf file)).run d =
      (turns.map fun turn => Exit.ofClean turn.isClean,
        d.afterRun format folders l m turns ed' w') := by
  induction files generalizing d s turns with
  | nil => exact absurd rfl hne
  | cons file files ih =>
    rw [List.forall_mem_cons] at hargsOf
    obtain ⟨text, htext⟩ := Option.isSome_iff_exists.mp (h.readable file List.mem_cons_self)
    rw [Directory.texts_cons htext] at hturns hkeeps
    obtain ⟨turn, ed₁, w₁, turns', hturn, hrest, rfl⟩ := runReplies_cons_eq_ok hturns
    obtain ⟨hfirst, hready, htexts, hkeeps⟩ := h.run_first hargsOf.1 htext hturn hkeeps
    refine run_mapM_cons hfirst ?_
    by_cases hlast : files = []
    · subst hlast
      cases hrest
      rfl
    rw [← htexts] at hrest hkeeps
    rw [ih hready hlast hargsOf.2 hrest hkeeps, Directory.afterRun_afterRun]
    rfl

/-- If replies are stopped, so is one of the separate runs. -/
theorem Ready.stopped_mem_mapM_run (h : Ready format options settings files folders l m d s)
    (hargsOf : ∀ file ∈ files,
      Request.parse? (argsOf file) = some (.run (.apply [file] true) options))
    {why : Stop} (hstop : runReplies (d.texts files) s.editor s.book = .error why)
    (hkeeps : ∀ v ∈ storedTrees (reloadedTurns (d.texts files)) s.editor s.book,
      format.Keeps v) :
    Exit.stopped why ∈ ((files.mapM fun file => run system format (argsOf file)).run d).1 := by
  induction files generalizing d s with
  | nil => cases hstop
  | cons file files ih =>
    rw [List.forall_mem_cons] at hargsOf
    obtain ⟨text, htext⟩ := Option.isSome_iff_exists.mp (h.readable file List.mem_cons_self)
    rw [Directory.texts_cons htext] at hstop hkeeps
    rcases runReplies_cons_eq_error hstop with hturn | ⟨turn, ed₁, w₁, hturn, hrest⟩
    · have hstop₁ : runReplies (d.texts [file]) s.editor s.book = .error why := by
        rw [Directory.texts_cons htext, runReplies, hturn]
        rfl
      have hready : Ready format options settings [file] folders l m d s := h.of_subset (by simp)
      have hfirst := hready.run_apply_stopped (List.cons_ne_nil _ _) hargsOf.1 hstop₁
      rw [fst_run_mapM_cons, hfirst]
      exact List.mem_cons_self
    · obtain ⟨hfirst, hready, htexts, hkeeps⟩ := h.run_first hargsOf.1 htext hturn hkeeps
      rw [← htexts] at hrest hkeeps
      rw [fst_run_mapM_cons, hfirst]
      exact List.mem_cons_of_mem _ (ih hready hargsOf.2 hrest hkeeps)

end

/-- A run that cannot load leaves everything as it was. -/
theorem run_apply_of_failed {message : String} (hne : files ≠ [])
    (hreadable : ∀ file ∈ files, (d.textAt? (.ofText file)).isSome)
    (hargs : Request.parse? args = some (.run (.apply files true) options))
    (hload : (Session.load system format options).run d = (.error (.failed message), d)) :
    (run system format args).run d = (.failed message, d) := by
  rw [run_of_parse? hargs, runTask, run_step_bind, run_readReplies hne hreadable]
  dsimp only
  rw [run_step_bind, hload]

/-- Separate runs that cannot load all fail in the same way. -/
theorem mapM_run_of_failed {argsOf : String → List String} {message : String}
    (hreadable : ∀ file ∈ files, (d.textAt? (.ofText file)).isSome)
    (hargsOf : ∀ file ∈ files,
      Request.parse? (argsOf file) = some (.run (.apply [file] true) options))
    (hload : (Session.load system format options).run d = (.error (.failed message), d)) :
    (files.mapM fun file => run system format (argsOf file)).run d =
      (files.map fun _ => .failed message, d) := by
  induction files with
  | nil => rfl
  | cons file files ih =>
    rw [List.forall_mem_cons] at hreadable hargsOf
    have hreadable₁ : ∀ f ∈ [file], (d.textAt? (.ofText f)).isSome :=
      List.forall_mem_singleton.mpr hreadable.1
    have hfirst := run_apply_of_failed (List.cons_ne_nil _ _) hreadable₁ hargsOf.1 hload
    exact run_mapM_cons hfirst (ih hreadable.2 hargsOf.2)

theorem Exit.code_ofClean_eq_zero_iff {clean : Bool} : (ofClean clean).code = 0 ↔ clean = true := by
  cases clean <;> decide

/-- The session that is loaded, if one can be loaded. -/
def Directory.session? (d : Directory) (format : Format) (options : Options) : Option Session :=
  ((Session.load system format options).run d).1.toOption

/-- The replies can be read. If a session is loaded, it has a sheet, and the format gives back all that
is saved on the way. -/
structure Prepared (format : Format) (options : Options) (files : List String) (d : Directory) :
    Prop where
  readable : ∀ file ∈ files, (d.textAt? (.ofText file)).isSome
  sheets : ∀ s ∈ d.session? format options, s.book.sheets ≠ []
  keeps : ∀ s ∈ d.session? format options,
    ∀ v ∈ storedTrees (reloadedTurns (d.texts files)) s.editor s.book, format.Keeps v

instance (format : Format) (options : Options) (files : List String) (d : Directory) :
    Decidable (Prepared format options files d) :=
  decidable_of_iff
    ((∀ file ∈ files, (d.textAt? (.ofText file)).isSome) ∧
      (∀ s ∈ d.session? format options, s.book.sheets ≠ []) ∧
      ∀ s ∈ d.session? format options,
        ∀ v ∈ storedTrees (reloadedTurns (d.texts files)) s.editor s.book, format.Keeps v)
    ⟨fun ⟨hreadable, hsheets, hkeeps⟩ => ⟨hreadable, hsheets, hkeeps⟩,
      fun h => ⟨h.readable, h.sheets, h.keeps⟩⟩

/-- Replies that run all at once leave and print what they leave and print in separate runs, unless a
sort stops the one run before anything is saved. And the one run ends well just when all separate runs
do. For that the workbook and the history have to be saved as two files, apart from the settings and the
replies. -/
theorem run_apply_eq_runs (format : Format) {argsOf : String → List String} (hne : files ≠ [])
    (hargs : Request.parse? args = some (.run (.apply files true) options))
    (hargsOf : ∀ file ∈ files,
      Request.parse? (argsOf file) = some (.run (.apply [file] true) options))
    (hprepared : Prepared format options files d)
    (hseparate : d.Separate (.ofText (d.pathFor options.workbook "workbook.yaml"))
      (.ofText (d.pathFor options.history "history.yaml"))
      (.ofText (d.pathFor options.config "config.yaml") :: files.map .ofText)) :
    let one := (run system format args).run d
    let many := (files.mapM fun file => run system format (argsOf file)).run d
    (one.2 = many.2 ∨ one.1 = .stopped .disorder) ∧
      (one.1.code = 0 ↔ ∀ exit ∈ many.1, exit.code = 0) := by
  rcases run_load_cases d format options with ⟨settings, s, hloaded⟩ | ⟨message, hload⟩
  · have hs : s ∈ d.session? format options := by
      rw [Directory.session?, run_load_of_loaded hloaded]
      rfl
    obtain ⟨folders, l, m, hsaves⟩ := hseparate.saves
    rw [← hloaded.workbookPath_eq, ← hloaded.historyPath_eq] at hsaves
    have hready : Ready format options settings files folders l m d s :=
      ⟨hprepared.readable, hloaded, hsaves, hprepared.sheets s hs⟩
    rcases runReplies_cases (d.texts files) s.editor hready.sheets with
      ⟨turns, ed', w', hturns⟩ | hstop
    · rw [hready.run_apply hne hargs hturns,
        hready.mapM_run hne hargsOf hturns (hprepared.keeps s hs)]
      refine ⟨Or.inl rfl, ?_⟩
      simp only [List.forall_mem_map, Exit.code_ofClean_eq_zero_iff, List.all_eq_true]
    · have hone := hready.run_apply_stopped hne hargs hstop
      have hmany := hready.stopped_mem_mapM_run hargsOf hstop (hprepared.keeps s hs)
      refine ⟨Or.inr hone, ?_⟩
      constructor
      · intro h
        rw [hone] at h
        cases h
      · intro h
        cases h _ hmany
  · rw [run_apply_of_failed hne hprepared.readable hargs hload,
      mapM_run_of_failed hprepared.readable hargsOf hload]
    refine ⟨Or.inl rfl, ?_⟩
    obtain ⟨file, hfile⟩ := List.exists_mem_of_ne_nil files hne
    constructor
    · intro h
      cases h
    · intro h
      exact h _ (List.mem_map_of_mem hfile)

end

/-- Arguments that apply the replies in some files. -/
def applyArgs (named files : List String) : List String :=
  "apply" :: "--json" :: (named ++ files)

/-- A directory with a reply that writes and one that undoes. -/
def writeThenUndo : Directory :=
  .ofFiles ["home"] [("write.txt", "SET_VALUE|A1|x"), ("undo.txt", "Back.\nUNDO")]

/-- A reply that writes and one that undoes what the run before has saved. -/
theorem run_apply_eq_runs_writeThenUndo :
    (writeThenUndo.session? .yaml {}).isSome ∧
      let one := (run system .yaml (applyArgs [] ["write.txt", "undo.txt"])).run writeThenUndo
      let many := (["write.txt", "undo.txt"].mapM fun file =>
        run system .yaml (applyArgs [] [file])).run writeThenUndo
      one.2 = many.2 ∧ (one.1.code = 0 ↔ ∀ exit ∈ many.1, exit.code = 0) := by
  have hargs : Request.parse? (applyArgs [] ["write.txt", "undo.txt"]) =
      some (.run (.apply ["write.txt", "undo.txt"] true) {}) := by decide +kernel
  have hargsOf : ∀ file ∈ ["write.txt", "undo.txt"],
      Request.parse? (applyArgs [] [file]) = some (.run (.apply [file] true) {}) := by
    decide +kernel
  have hprepared : Prepared .yaml {} ["write.txt", "undo.txt"] writeThenUndo := by decide +kernel
  have hends : ((run system .yaml (applyArgs [] ["write.txt", "undo.txt"])).run writeThenUndo).1 ≠
      .stopped .disorder := by decide +kernel
  obtain ⟨hsame, hcodes⟩ :=
    run_apply_eq_runs .yaml (by decide) hargs hargsOf hprepared (by decide +kernel)
  exact ⟨by decide +kernel, hsame.resolve_right hends, hcodes⟩

/-- A directory with a reply that is only a note, and with a workbook. -/
def noteAndBook : Directory :=
  .ofFiles ["home"] [("note.txt", "Hi."), ("book.yaml", "sheets:\n- name: a\n")]

/-- A directory with a reply that writes and one that sorts, and with a workbook. Its first column holds
two numbers out of order with a text between them that reads as not-a-number. -/
def writeThenSort : Directory :=
  .ofFiles ["home"] [("write.txt", "SET_VALUE|B1|x"), ("sort.txt", "SORT|A1:A21|0|true"),
    ("book.yaml", "sheets:\n- name: a\n  cells:\n    A18:\n      value: '2'\n" ++
      "    A19:\n      value: nan\n    A20:\n      value: '1'\n")]

/-- One run and separate runs differ when the workbook and the history are one file, when the workbook
is itself a reply, when the history cannot be saved, and when a sort stops everything: then the one run
has not saved what was written before. -/
theorem one_run_ne_separate_runs :
    (Prepared .yaml ⟨some "both", some "both", none⟩ ["note.txt", "note.txt"] noteAndBook ∧
      let args := applyArgs ["--workbook", "both", "--history", "both"]
      ((run system .yaml (args ["note.txt", "note.txt"])).run noteAndBook).1.code = 0 ∧
        ((["note.txt", "note.txt"].mapM fun file =>
          run system .yaml (args [file])).run noteAndBook).1.map Exit.code = [0, 1]) ∧
    (Prepared .yaml ⟨some "book.yaml", none, none⟩ ["note.txt", "book.yaml"] noteAndBook ∧
      let args := applyArgs ["--workbook", "book.yaml"]
      ((run system .yaml (args ["note.txt", "book.yaml"])).run noteAndBook).2.output ≠
        ((["note.txt", "book.yaml"].mapM fun file =>
          run system .yaml (args [file])).run noteAndBook).2.output) ∧
    (Prepared .yaml ⟨none, some "write.txt/h", none⟩ ["write.txt", "undo.txt"] writeThenUndo ∧
      let args := applyArgs ["--history", "write.txt/h"]
      ((run system .yaml (args ["write.txt", "undo.txt"])).run writeThenUndo).2.output ≠
        ((["write.txt", "undo.txt"].mapM fun file =>
          run system .yaml (args [file])).run writeThenUndo).2.output) ∧
    Prepared .yaml ⟨some "book.yaml", none, none⟩ ["write.txt", "sort.txt"] writeThenSort ∧
      let args := applyArgs ["--workbook", "book.yaml"]
      ((run system .yaml (args ["write.txt", "sort.txt"])).run writeThenSort).2.textAt?
          (.ofText "book.yaml") ≠
        ((["write.txt", "sort.txt"].mapM fun file =>
          run system .yaml (args [file])).run writeThenSort).2.textAt? (.ofText "book.yaml") := by
  refine ⟨?_, ?_, ?_, ?_⟩ <;> decide +kernel

end CommandLine

end SheetScript
