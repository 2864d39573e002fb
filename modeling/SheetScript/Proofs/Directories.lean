import Mathlib.Data.List.Basic
import SheetScript.CommandLine.Directory

/-!
# What writing does to directories

Writing a file makes directories and puts a text at a place. Which directories are made and which place
it is depend on what there is, but not on any text. Whatever is written, a path that leads to a file
leads to it still.

- `Directory.fileAt?`, `Directory.textAt?`: the place and the text of the file that a path leads to.
- `Directory.write_of_end?`: a file in a directory that is there is written, and nothing is made.
- `Directory.Extends`: directories in which more was made and written; `Extends.write`.
- `Directory.Alike`: directories that differ in texts only; `Alike.write`.
- `Directory.writeBoth_eq`: what two files that are written together leave.
-/

namespace SheetScript.CommandLine

/-! ## Files in a list -/

section

variable {files : List (Location × String)} {l : Location}

/-- A file is found just where one is listed. -/
theorem lookup_isSome_iff : (files.lookup l).isSome = true ↔ l ∈ files.map Prod.fst := by
  induction files with
  | nil => simp
  | cons e files ih =>
    obtain ⟨m, text⟩ := e
    by_cases h : l = m
    · simp [h]
    · simp [List.lookup_cons, beq_eq_false_iff_ne.mpr h, h, ih]

theorem lookup_eq_none_iff : files.lookup l = none ↔ l ∉ files.map Prod.fst := by
  rw [← lookup_isSome_iff, Bool.not_eq_true, Option.isSome_eq_false_iff, Option.isNone_iff_eq_none]

/-- Leaving out other files does not change what is found. -/
theorem lookup_filter (keep : Location → Bool) (h : keep l = true) :
    (files.filter fun e => keep e.1).lookup l = files.lookup l := by
  induction files with
  | nil => rfl
  | cons e files ih =>
    obtain ⟨m, text⟩ := e
    by_cases hm : l = m
    · subst hm
      simp [h]
    · have hne : (l == m) = false := beq_eq_false_iff_ne.mpr hm
      cases hkeep : keep m with
      | true => simp [hkeep, List.lookup_cons, hne, ih]
      | false => simp [hkeep, List.lookup_cons, hne, ih]

end

/-- The place that a path ends at, if it is not a directory and lies in one. -/
def Place.end? : Place → Option Location
  | .file l _ | .free l => some l
  | _ => none

/-- What is found at a place, but for the text of a file. -/
def Place.withoutText : Place → Place
  | .file l _ => .file l ""
  | place => place

namespace Directory

variable {d d' d'' : Directory} {l m : Location} {steps : List Step} {p q : Path} {text : String}

/-! ## Where paths lead -/

/-- A step down goes on from a folder. A file or nothing can only be the end of a path. -/
theorem walkFrom_down (d : Directory) (m : Location) (name : String) (steps : List Step) :
    d.walkFrom m (.down name :: steps) =
      if d.isFolder (m ++ [name]) then d.walkFrom (m ++ [name]) steps
      else
        match d.files.lookup (m ++ [name]) with
        | some text => if steps = [] then .file (m ++ [name]) text else .blocked
        | none => if steps = [] then .free (m ++ [name]) else .missing := rfl

/-- A step down ends a path, or goes to a directory. -/
theorem end?_walkFrom_down {name : String} :
    (d.walkFrom m (.down name :: steps)).end? = some l ↔
      d.isFolder (m ++ [name]) = true ∧ (d.walkFrom (m ++ [name]) steps).end? = some l ∨
        d.isFolder (m ++ [name]) = false ∧ steps = [] ∧ m ++ [name] = l := by
  rw [walkFrom_down]
  cases d.isFolder (m ++ [name]) with
  | true => simp
  | false =>
    by_cases hlast : steps = []
    · cases d.files.lookup (m ++ [name]) <;> simp [hlast, Place.end?]
    · cases d.files.lookup (m ++ [name]) <;> simp [hlast, Place.end?]

/-- What is found at the end of a path. -/
theorem walkFrom_of_end? (h : (d.walkFrom m steps).end? = some l) :
    d.isFolder l = false ∧ d.walkFrom m steps =
      match d.files.lookup l with
      | some text => .file l text
      | none => .free l := by
  induction steps generalizing m with
  | nil => cases h
  | cons step steps ih =>
    cases step with
    | here => exact ih h
    | up => exact ih h
    | down name =>
      rcases end?_walkFrom_down.mp h with ⟨hfolder, hrest⟩ | ⟨hfolder, rfl, rfl⟩
      · rw [walkFrom_down, if_pos hfolder]
        exact ih hrest
      · rw [walkFrom_down, hfolder]
        exact ⟨rfl, rfl⟩

/-- Where paths end depends on the directories alone. -/
theorem end?_walkFrom_congr (h : ∀ l, d'.isFolder l = d.isFolder l) (m : Location)
    (steps : List Step) : (d'.walkFrom m steps).end? = (d.walkFrom m steps).end? := by
  refine Option.ext fun l => ?_
  induction steps generalizing m with
  | nil => rfl
  | cons step steps ih =>
    cases step with
    | here => exact ih m
    | up => exact ih m.dropLast
    | down name => rw [end?_walkFrom_down, end?_walkFrom_down, h, ih]

/-- All but the last step of a path lead to a directory. -/
theorem walkFrom_init {step : Step} (h : (d.walkFrom m (steps ++ [step])).end? = some l) :
    d.walkFrom m steps = .folder := by
  induction steps generalizing m with
  | nil => rfl
  | cons first steps ih =>
    cases first with
    | here => exact ih h
    | up => exact ih h
    | down name =>
      rcases end?_walkFrom_down.mp h with ⟨hfolder, hrest⟩ | ⟨-, hlast, -⟩
      · rw [walkFrom_down, if_pos hfolder]
        exact ih hrest
      · simp at hlast

/-- Steps that stay where they are do not change where a path ends. -/
theorem end?_walkFrom_filter (h : (d.walkFrom m steps).end? = some l) :
    (d.walkFrom m (steps.filter (· != .here))).end? = some l := by
  induction steps generalizing m with
  | nil => exact h
  | cons step steps ih =>
    cases step with
    | here => exact ih h
    | up => exact ih h
    | down name =>
      rw [List.filter_cons_of_pos rfl, end?_walkFrom_down]
      rcases end?_walkFrom_down.mp h with ⟨hfolder, hrest⟩ | ⟨hfolder, rfl, hl⟩
      · exact Or.inl ⟨hfolder, ih hrest⟩
      · exact Or.inr ⟨hfolder, rfl, hl⟩

/-- The file that a path leads to lies in a directory. -/
theorem walk_parent? (h : (d.walk p).end? = some l) {parent : Path} (hp : p.parent? = some parent) :
    d.walk parent = .folder := by
  unfold Path.parent? at hp
  dsimp only at hp
  split at hp
  · cases hp
  next hne =>
    cases hp
    have hsplit := List.dropLast_concat_getLast hne
    have hend := end?_walkFrom_filter h
    rw [← hsplit] at hend
    exact walkFrom_init hend

/-! ## Files -/

/-- The place of the file that a path leads to. -/
def fileAt? (d : Directory) (p : Path) : Option Location :=
  match d.walk p with
  | .file l _ => some l
  | _ => none

/-- The text of the file that a path leads to. -/
def textAt? (d : Directory) (p : Path) : Option String :=
  match d.walk p with
  | .file _ text => some text
  | _ => none

theorem lookup_of_walk (h : d.walk p = .file l text) : d.files.lookup l = some text := by
  have hend : (d.walk p).end? = some l := by rw [h]; rfl
  have hfound := (walkFrom_of_end? hend).2
  rw [show d.walkFrom _ _ = d.walk p from rfl, h] at hfound
  cases hlookup : d.files.lookup l with
  | some text' =>
    rw [hlookup] at hfound
    cases hfound
    rfl
  | none =>
    rw [hlookup] at hfound
    cases hfound

/-- A path leads to a file if it ends at one. -/
theorem fileAt?_eq_some_iff :
    d.fileAt? p = some l ↔ (d.walk p).end? = some l ∧ l ∈ d.files.map Prod.fst := by
  rw [← lookup_isSome_iff]
  constructor
  · intro h
    rw [fileAt?] at h
    split at h
    next m text hwalk =>
      cases h
      exact ⟨by rw [hwalk]; rfl, by rw [lookup_of_walk hwalk]; rfl⟩
    · cases h
  · rintro ⟨hend, hsome⟩
    obtain ⟨text, hlookup⟩ := Option.isSome_iff_exists.mp hsome
    have hfound := (walkFrom_of_end? hend).2
    rw [hlookup] at hfound
    rw [fileAt?, show d.walk p = .file l text from hfound]

/-- What can be read at a path is the text of the file it leads to. -/
theorem textAt?_eq (d : Directory) (p : Path) :
    d.textAt? p = (d.fileAt? p).bind fun l => d.files.lookup l := by
  rw [textAt?, fileAt?]
  cases hwalk : d.walk p with
  | file l text => exact (lookup_of_walk hwalk).symm
  | _ => rfl

/-! ## Writing in steps -/

/-- The directories that a file needs are made. -/
def makeParent (d : Directory) (p : Path) : Bool × Directory :=
  match p.parent? with
  | none => (true, d)
  | some parent => makeFolders parent.isAbsolute parent.steps.reverse d

theorem write_eq_walk (d : Directory) (p : Path) (text : String) :
    d.write p text =
      match (d.makeParent p).1, (d.makeParent p).2.walk p with
      | true, .file l _ | true, .free l => (true, (d.makeParent p).2.put l text)
      | _, _ => (false, (d.makeParent p).2) := rfl

/-- A write makes the folders on the way, and then puts the text where the path ends, if it ends
somewhere. -/
theorem write_eq (d : Directory) (p : Path) (text : String) :
    d.write p text =
      match (d.makeParent p).1, ((d.makeParent p).2.walk p).end? with
      | true, some l => (true, (d.makeParent p).2.put l text)
      | _, _ => (false, (d.makeParent p).2) := by
  rw [write_eq_walk]
  cases (d.makeParent p).1 with
  | false => rfl
  | true => cases (d.makeParent p).2.walk p <;> rfl

/-- A folder that is there is not made again. -/
theorem makeFolders_of_folder (h : d.walk p = .folder) :
    makeFolders p.isAbsolute p.steps.reverse d = (true, d) := by
  obtain ⟨isAbsolute, steps⟩ := p
  cases hsteps : steps.reverse with
  | nil => rfl
  | cons last before =>
    have hback : (last :: before).reverse = steps := by rw [← hsteps, List.reverse_reverse]
    rw [makeFolders, hback, h]
    show d.makeFolder ⟨isAbsolute, steps⟩ = (true, d)
    rw [makeFolder, h]

/-- Nothing has to be made for a file in a directory that is there. -/
theorem write_of_end? (h : (d.walk p).end? = some l) (text : String) :
    d.write p text = (true, d.put l text) := by
  have hparent : d.makeParent p = (true, d) := by
    rw [makeParent]
    split
    · rfl
    next parent hp => exact makeFolders_of_folder (walk_parent? h hp)
  rw [write_eq, hparent]
  simp [h]

/-! ## What is left alone -/

/-- Making a folder changes nothing but the folders. -/
theorem makeFolder_eq (d : Directory) (p : Path) :
    (d.makeFolder p).2 = { d with folders := (d.makeFolder p).2.folders } := by
  rw [makeFolder]
  split <;> rfl

theorem makeFolders_eq (isAbsolute : Bool) (steps : List Step) (d : Directory) :
    (makeFolders isAbsolute steps d).2 =
      { d with folders := (makeFolders isAbsolute steps d).2.folders } := by
  induction steps with
  | nil => rfl
  | cons last before ih =>
    rw [makeFolders]
    split
    · split
      next e hmade =>
        rw [hmade] at ih
        rw [makeFolder_eq e]
        rw [show e = { d with folders := e.folders } from ih]
      next e hmade =>
        rw [hmade] at ih
        exact ih
    · exact makeFolder_eq d _

/-- Neither does making the folders of a file. -/
theorem makeParent_eq (d : Directory) (p : Path) :
    (d.makeParent p).2 = { d with folders := (d.makeParent p).2.folders } := by
  rw [makeParent]
  split
  · rfl
  · exact makeFolders_eq _ _ d

/-! ## Directories in which more was written -/

/-- What the first directory has, the second one has too. Files stay files, with any texts. -/
structure Extends (d d' : Directory) : Prop where
  home : d'.home = d.home
  folders : ∀ l, d.isFolder l = true → d'.isFolder l = true
  files : ∀ l ∈ d.files.map Prod.fst, d.isFolder l = false →
    d'.isFolder l = false ∧ l ∈ d'.files.map Prod.fst

namespace Extends

theorem refl (d : Directory) : d.Extends d where
  home := rfl
  folders _ hl := hl
  files _ hl hfolder := ⟨hfolder, hl⟩

theorem trans (h : d.Extends d') (h' : d'.Extends d'') : d.Extends d'' where
  home := h'.home.trans h.home
  folders l hl := h'.folders l (h.folders l hl)
  files l hl hfolder := by
    obtain ⟨hfolder', hl'⟩ := h.files l hl hfolder
    exact h'.files l hl' hfolder'

/-- Making a folder adds to a directory and takes nothing away. -/
theorem makeFolder (d : Directory) (p : Path) : d.Extends (d.makeFolder p).2 := by
  rw [Directory.makeFolder]
  split
  · exact refl d
  next m hwalk =>
    have hfree : m ∉ d.files.map Prod.fst := by
      intro hm
      have hend : (d.walk p).end? = some m := by rw [hwalk]; rfl
      have hfile := fileAt?_eq_some_iff.mpr ⟨hend, hm⟩
      rw [fileAt?, hwalk] at hfile
      cases hfile
    refine ⟨rfl, fun l hl => ?_, fun l hl hfolder => ⟨?_, hl⟩⟩
    · simp only [isFolder, Bool.or_eq_true, List.contains_iff_mem, List.mem_append] at hl ⊢
      exact hl.imp_right Or.inl
    · have hne : l ≠ m := fun heq => hfree (heq ▸ hl)
      simp only [isFolder, Bool.or_eq_false_iff] at hfolder ⊢
      simpa [hne] using hfolder
  · exact refl d

theorem makeFolders (isAbsolute : Bool) (steps : List Step) (d : Directory) :
    d.Extends (Directory.makeFolders isAbsolute steps d).2 := by
  induction steps with
  | nil => exact refl d
  | cons last before ih =>
    rw [Directory.makeFolders]
    split
    · split
      next e hmade =>
        rw [hmade] at ih
        exact ih.trans (makeFolder e _)
      next e hmade =>
        rw [hmade] at ih
        exact ih
    · exact makeFolder d _

/-- So does putting a text. -/
theorem put (d : Directory) (l : Location) (text : String) : d.Extends (d.put l text) where
  home := rfl
  folders _ hl := hl
  files m hm hfolder := by
    refine ⟨hfolder, ?_⟩
    by_cases hne : m = l
    · subst hne
      simp [Directory.put]
    · obtain ⟨e, he, rfl⟩ := List.mem_map.mp hm
      refine List.mem_map_of_mem ?_
      simp [Directory.put, he, hne]

/-- Whether it works or not, writing keeps what there is. -/
theorem write (d : Directory) (p : Path) (text : String) : d.Extends (d.write p text).2 := by
  have hparent : d.Extends (d.makeParent p).2 := by
    rw [makeParent]
    split
    · exact refl d
    · exact makeFolders _ _ d
  rw [write_eq]
  split
  · exact hparent.trans (put _ _ _)
  · exact hparent

/-- A path that leads to a file leads to it still. -/
theorem fileAt? (h : d.Extends d') (hfile : d.fileAt? p = some l) : d'.fileAt? p = some l := by
  obtain ⟨hend, hmem⟩ := fileAt?_eq_some_iff.mp hfile
  obtain ⟨hfolder, hmem'⟩ := h.files l hmem (walkFrom_of_end? hend).1
  refine fileAt?_eq_some_iff.mpr ⟨?_, hmem'⟩
  have hkeep : ∀ (steps : List Step) (m : Location), (d.walkFrom m steps).end? = some l →
      (d'.walkFrom m steps).end? = some l := by
    intro steps
    induction steps with
    | nil => exact fun _ hnil => hnil
    | cons step steps ih =>
      intro m hm
      cases step with
      | here => exact ih m hm
      | up => exact ih m.dropLast hm
      | down name =>
        rcases end?_walkFrom_down.mp hm with ⟨hdown, hrest⟩ | ⟨-, rfl, rfl⟩
        · exact end?_walkFrom_down.mpr (Or.inl ⟨h.folders _ hdown, ih _ hrest⟩)
        · exact end?_walkFrom_down.mpr (Or.inr ⟨hfolder, rfl, rfl⟩)
  rw [walk, h.home]
  exact hkeep _ _ hend

end Extends

/-! ## Directories that differ in texts only -/

/-- The same directories, and files at the same places. -/
structure Alike (d d' : Directory) : Prop where
  home : d'.home = d.home
  folders : d'.folders = d.folders
  places : d'.files.map Prod.fst = d.files.map Prod.fst

namespace Alike

theorem isFolder (h : d.Alike d') (l : Location) : d'.isFolder l = d.isFolder l := by
  rw [Directory.isFolder, Directory.isFolder, h.folders]

/-- Whatever the texts are, a path leads to the same kind of place. -/
theorem withoutText_walk (h : d.Alike d') (p : Path) :
    (d'.walk p).withoutText = (d.walk p).withoutText := by
  have hsame : ∀ (steps : List Step) (m : Location),
      (d'.walkFrom m steps).withoutText = (d.walkFrom m steps).withoutText := by
    intro steps
    induction steps with
    | nil => exact fun _ => rfl
    | cons step steps ih =>
      intro m
      cases step with
      | here => exact ih m
      | up => exact ih m.dropLast
      | down name =>
        rw [walkFrom_down, walkFrom_down, h.isFolder]
        split
        · exact ih _
        · have hfound : (d'.files.lookup (m ++ [name])).isSome =
              (d.files.lookup (m ++ [name])).isSome := by
            rw [Bool.eq_iff_iff, lookup_isSome_iff, lookup_isSome_iff, h.places]
          cases hd : d.files.lookup (m ++ [name]) with
          | none =>
            rw [hd, Option.isSome_none, Option.isSome_eq_false_iff, Option.isNone_iff_eq_none]
              at hfound
            rw [hfound]
          | some text =>
            rw [hd, Option.isSome_some, Option.isSome_iff_exists] at hfound
            obtain ⟨text', hd'⟩ := hfound
            rw [hd']
            by_cases hlast : steps = [] <;> simp [hlast, Place.withoutText]
  rw [walk, h.home]
  exact hsame _ _

theorem end?_walk (h : d.Alike d') (p : Path) : (d'.walk p).end? = (d.walk p).end? := by
  have hsame := h.withoutText_walk p
  cases hd : d.walk p <;> cases hd' : d'.walk p <;> rw [hd, hd'] at hsame <;> cases hsame <;> rfl

/-- And it leads to the same file. -/
theorem fileAt? (h : d.Alike d') (p : Path) : d'.fileAt? p = d.fileAt? p := by
  refine Option.ext fun l => ?_
  rw [fileAt?_eq_some_iff, fileAt?_eq_some_iff, h.end?_walk, h.places]

theorem makeFolder (h : d.Alike d') (p : Path) :
    (d'.makeFolder p).1 = (d.makeFolder p).1 ∧ (d.makeFolder p).2.Alike (d'.makeFolder p).2 := by
  have hsame := h.withoutText_walk p
  rw [Directory.makeFolder, Directory.makeFolder]
  cases hd : d.walk p <;> cases hd' : d'.walk p <;> rw [hd, hd'] at hsame <;> cases hsame
  · exact ⟨rfl, h⟩
  · exact ⟨rfl, h⟩
  · exact ⟨rfl, h.home, by rw [h.folders], h.places⟩
  · exact ⟨rfl, h⟩
  · exact ⟨rfl, h⟩

theorem makeFolders (h : d.Alike d') (isAbsolute : Bool) (steps : List Step) :
    (Directory.makeFolders isAbsolute steps d').1 = (Directory.makeFolders isAbsolute steps d).1 ∧
      (Directory.makeFolders isAbsolute steps d).2.Alike
        (Directory.makeFolders isAbsolute steps d').2 := by
  induction steps with
  | nil => exact ⟨rfl, h⟩
  | cons last before ih =>
    rw [Directory.makeFolders, Directory.makeFolders]
    generalize (⟨isAbsolute, (last :: before).reverse⟩ : Path) = path
    have hsame := h.withoutText_walk path
    have hlast := h.makeFolder path
    cases hd : d.walk path <;> cases hd' : d'.walk path <;> rw [hd, hd'] at hsame <;> cases hsame
    · exact hlast
    · exact hlast
    · exact hlast
    · rcases hmade : Directory.makeFolders isAbsolute before d with ⟨made, e⟩
      rcases hmade' : Directory.makeFolders isAbsolute before d' with ⟨made', e'⟩
      rw [hmade, hmade'] at ih
      obtain ⟨rfl, halike⟩ := ih
      cases made' with
      | false => exact ⟨rfl, halike⟩
      | true => exact halike.makeFolder path
    · exact hlast

theorem makeParent (h : d.Alike d') (p : Path) :
    (d'.makeParent p).1 = (d.makeParent p).1 ∧ (d.makeParent p).2.Alike (d'.makeParent p).2 := by
  rw [Directory.makeParent, Directory.makeParent]
  split
  · exact ⟨rfl, h⟩
  · exact h.makeFolders _ _

theorem put (h : d.Alike d') (l : Location) (text text' : String) :
    (d.put l text).Alike (d'.put l text') where
  home := h.home
  folders := h.folders
  places := by
    have hkeys : ∀ files : List (Location × String),
        (files.filter (·.1 != l)).map Prod.fst = (files.map Prod.fst).filter (· != l) := by
      intro files
      rw [List.filter_map]
      rfl
    simp only [Directory.put, List.map_append, hkeys, h.places]
    rfl

/-- What is made and where a file is put does not depend on texts. -/
theorem write (h : d.Alike d') (p : Path) (text text' : String) :
    (d'.write p text').1 = (d.write p text).1 ∧ (d.write p text).2.Alike (d'.write p text').2 := by
  obtain ⟨hmade, halike⟩ := h.makeParent p
  rw [write_eq, write_eq, hmade, halike.end?_walk]
  cases (d.makeParent p).1 with
  | false => exact ⟨rfl, halike⟩
  | true =>
    cases ((d.makeParent p).2.walk p).end? with
    | none => exact ⟨rfl, halike⟩
    | some l => exact ⟨rfl, halike.put l text text'⟩

end Alike

/-! ## Two files that are written together -/

/-- Write two files, the second one only if the first one could be written. -/
def writeBoth (d : Directory) (p q : Path) (text text' : String) : Bool × Directory :=
  match d.write p text with
  | (true, d) => d.write q text'
  | (false, d) => (false, d)

/-- The directory with files at two places, after all others, and with certain directories. -/
def withBoth (d : Directory) (folders : List Location) (l m : Location) (text text' : String) :
    Directory :=
  { d with
    folders
    files := (d.files.filter fun e => e.1 != l && e.1 != m) ++ [(l, text), (m, text')] }

section

variable {text' : String} {folders : List Location}

/-- Two texts that are put at two places are both there. -/
theorem put_put (hne : l ≠ m) :
    ({ d with folders }.put l text).put m text' = d.withBoth folders l m text text' := by
  simp only [put, withBoth, List.filter_append, List.filter_filter, Bool.and_comm]
  simp [hne]

/-- Writing that works puts the text where the path leads. -/
theorem exists_put_of_write (h : (d.write p text).1 = true) :
    ∃ l folders, (d.write p text).2 = { d with folders }.put l text ∧
      (d.write p text).2.fileAt? p = some l := by
  rw [write_eq] at h ⊢
  split at h
  next l hmade hend =>
    refine ⟨l, (d.makeParent p).2.folders, ?_, ?_⟩
    · show (d.makeParent p).2.put l text = _
      rw [makeParent_eq]
    · refine fileAt?_eq_some_iff.mpr ⟨?_, by simp [put]⟩
      show (((d.makeParent p).2.put l text).walk p).end? = some l
      rw [← hend, walk, walk]
      refine end?_walkFrom_congr ?_ _ _
      exact fun _ => rfl
  · cases h

/-- What two files that can be written leave, whatever their texts are. -/
theorem writeBoth_eq {e : Directory} (halike : d.Alike e)
    (hwritten : (d.writeBoth p q "" "").1 = true)
    (hp : (d.writeBoth p q "" "").2.fileAt? p = some l)
    (hq : (d.writeBoth p q "" "").2.fileAt? q = some m) (hne : l ≠ m) (text text' : String) :
    e.writeBoth p q text text' =
      (true, e.withBoth (d.writeBoth p q "" "").2.folders l m text text') := by
  rcases hfirst : d.write p "" with ⟨made, d₁⟩
  cases made with
  | false => simp [writeBoth, hfirst] at hwritten
  | true =>
    simp only [writeBoth, hfirst] at hwritten hp hq ⊢
    obtain ⟨hmade₁, halike₁⟩ := halike.write p "" text
    rw [hfirst] at hmade₁ halike₁
    obtain ⟨l', folders₁, hput₁, hfile₁⟩ := exists_put_of_write hmade₁
    rcases hsecond : e.write p text with ⟨made', e₁⟩
    rw [hsecond] at hmade₁ halike₁ hput₁ hfile₁
    obtain rfl : made' = true := hmade₁
    obtain ⟨hmade₂, halike₂⟩ := halike₁.write q "" text'
    rw [hwritten] at hmade₂
    obtain ⟨m', folders₂, hput₂, hfile₂⟩ := exists_put_of_write hmade₂
    -- the places are those where the empty texts went
    obtain rfl : m' = m := by
      rw [halike₂.fileAt?, hq] at hfile₂
      exact (Option.some.inj hfile₂).symm
    obtain rfl : l' = l := by
      rw [halike₁.fileAt?] at hfile₁
      rw [(Extends.write d₁ q "").fileAt? hfile₁] at hp
      exact Option.some.inj hp
    have hfolders : folders₂ = (d₁.write q "").2.folders := by
      rw [← halike₂.folders, hput₂]
      rfl
    refine Prod.ext hmade₂ ?_
    show (e₁.write q text').2 = _
    rw [hput₂, ← hfolders, ← put_put hne,
      show e₁ = { e with folders := folders₁ }.put l' text from hput₁]
    rfl

/-- Two files that are there are replaced. -/
theorem writeBoth_of_fileAt? (hp : d.fileAt? p = some l) (hq : d.fileAt? q = some m) (hne : l ≠ m)
    (text text' : String) :
    d.writeBoth p q text text' = (true, d.withBoth d.folders l m text text') := by
  have hq' := (Extends.put d l text).fileAt? hq
  rw [writeBoth, write_of_end? (fileAt?_eq_some_iff.mp hp).1]
  show (d.put l text).write q text' = _
  rw [write_of_end? (fileAt?_eq_some_iff.mp hq').1]
  exact congrArg (Prod.mk true) (put_put hne)

/-- A third place has the text it had before. -/
theorem lookup_withBoth_other {k : Location} (hl : k ≠ l) (hm : k ≠ m) :
    (d.withBoth folders l m text text').files.lookup k = d.files.lookup k := by
  have hkept : (d.files.filter fun e => e.1 != l && e.1 != m).lookup k = d.files.lookup k :=
    lookup_filter (fun k => k != l && k != m) (by simp [hl, hm])
  rw [withBoth, List.lookup_append, hkept]
  simp [List.lookup_cons, beq_eq_false_iff_ne.mpr hl, beq_eq_false_iff_ne.mpr hm]

theorem lookup_withBoth_first :
    (d.withBoth folders l m text text').files.lookup l = some text := by
  have hnone : (d.files.filter fun e => e.1 != l && e.1 != m).lookup l = none :=
    lookup_eq_none_iff.mpr (by simp)
  rw [withBoth, List.lookup_append, hnone]
  simp

/-- At another place than the first text the second one can be read. -/
theorem lookup_withBoth_second (hne : l ≠ m) :
    (d.withBoth folders l m text text').files.lookup m = some text' := by
  have hnone : (d.files.filter fun e => e.1 != l && e.1 != m).lookup m = none :=
    lookup_eq_none_iff.mpr (by simp)
  rw [withBoth, List.lookup_append, hnone]
  simp [List.lookup_cons, beq_eq_false_iff_ne.mpr hne.symm]

end

end Directory

end SheetScript.CommandLine
