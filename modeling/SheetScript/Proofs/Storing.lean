import Mathlib
import SheetScript.Proofs.Cells
import SheetScript.Proofs.Kinds
import SheetScript.Proofs.Notation
import SheetScript.Proofs.Rereading
import SheetScript.Store

/-!
# Documents that are stored

Every document is read back from the tree it is stored as, and from each tree that is read as that one.
The cells of a sheet are stored under their notation, in the order of texts and not of positions; as
distinct positions have distinct notations, none is lost.

- `StoredSheet.toSheet_ofSheet`: a sheet is found again under the texts of its cells.
- `Workbook.ofValue_of_readsAs`, `History.ofValue_of_readsAs`: documents as trees.
-/

namespace SheetScript

open Grid Value

/-! ## Cells under texts -/

namespace StoredSheet

/-- Of two entries with one key the later one counts. -/
theorem cellsOfEntries_eq (entries : List (String × Cell)) :
    cellsOfEntries entries = (∅ : Std.ExtTreeMap String Cell).insertMany entries := by
  have hfold : ∀ t : Std.ExtTreeMap String Cell,
      entries.foldl (fun acc e => acc.insert e.1 e.2) t = t.insertMany entries := by
    induction entries with
    | nil => exact fun t => Std.ExtTreeMap.insertMany_nil.symm
    | cons e entries ih =>
      intro t
      rw [List.foldl_cons, ih, Std.ExtTreeMap.insertMany_cons]
  exact hfold ∅

/-- Under distinct texts no entry replaces another one. -/
theorem mem_toList_cellsOfEntries {entries : List (String × Cell)}
    (hnodup : (entries.map Prod.fst).Nodup) {key : String} {c : Cell} :
    (key, c) ∈ (cellsOfEntries entries).toList ↔ (key, c) ∈ entries := by
  have hdistinct : entries.Pairwise fun a b => ¬compare a.1 b.1 = .eq := by
    rw [List.nodup_iff_pairwise_ne, List.pairwise_map] at hnodup
    exact hnodup.imp fun hne heq => hne (Std.LawfulEqOrd.eq_of_compare heq)
  rw [Std.ExtTreeMap.mem_toList_iff_getElem?_eq_some, cellsOfEntries_eq]
  constructor
  · intro h
    by_cases hkey : (entries.map Prod.fst).contains key = false
    · rw [Std.ExtTreeMap.getElem?_insertMany_list_of_contains_eq_false hkey] at h
      simp at h
    · rw [Bool.not_eq_false, List.contains_iff_mem] at hkey
      obtain ⟨⟨key', d⟩, hd, rfl⟩ := List.mem_map.mp hkey
      rw [Std.ExtTreeMap.getElem?_insertMany_list_of_mem Std.ReflCmp.compare_self hdistinct hd] at h
      cases h
      exact hd
  · intro h
    exact Std.ExtTreeMap.getElem?_insertMany_list_of_mem Std.ReflCmp.compare_self hdistinct h

theorem nodup_keys_toList (cells : Std.ExtTreeMap String Cell) :
    (cells.toList.map Prod.fst).Nodup := by
  rw [List.nodup_iff_pairwise_ne, List.pairwise_map]
  refine Std.ExtTreeMap.distinct_keys_toList.imp ?_
  intro a b hne heq
  exact hne (heq ▸ Std.ReflCmp.compare_self)

/-- The entries of a map make that map. -/
theorem cellsOfEntries_toList (cells : Std.ExtTreeMap String Cell) :
    cellsOfEntries cells.toList = cells := by
  refine Std.ExtTreeMap.ext_getElem? fun key => Option.ext fun c => ?_
  rw [← Std.ExtTreeMap.mem_toList_iff_getElem?_eq_some,
    ← Std.ExtTreeMap.mem_toList_iff_getElem?_eq_some, mem_toList_cellsOfEntries (nodup_keys_toList _)]

/-- An entry of a sheet under the text of its position. -/
def underText (e : Position × Cell) : String × Cell :=
  (e.1.text, e.2)

/-- Cells of different positions have different keys. -/
theorem underText_injective : Function.Injective underText := by
  rintro ⟨p, c⟩ ⟨q, d⟩ h
  obtain ⟨htext, hcell⟩ := Prod.mk.inj h
  exact Prod.ext (Position.text_injective htext) hcell

theorem map_fst_underText (entries : List (Position × Cell)) :
    (entries.map underText).map Prod.fst = (entries.map Prod.fst).map Position.text := by
  rw [List.map_map, List.map_map]
  rfl

/-- A sheet is stored with the cells it has in use, each under the text of its position. -/
theorem mem_toList_ofSheet (s : Sheet) {key : String} {c : Cell} :
    (key, c) ∈ (ofSheet s).cells.toList ↔ (key, c) ∈ s.cells.toList.map underText := by
  have hcells : (ofSheet s).cells = cellsOfEntries (s.cells.toList.map underText) := by
    rw [cellsOfEntries, List.foldl_map]
    rfl
  rw [hcells]
  refine mem_toList_cellsOfEntries ?_
  rw [map_fst_underText]
  exact s.cells.nodup_keys_toList.map Position.text_injective

/-- The entries of the stored form are those of the sheet, in another order. -/
theorem exists_toList_ofSheet (s : Sheet) :
    ∃ placed : List (Position × Cell), (ofSheet s).cells.toList = placed.map underText ∧
      ∀ p c, (p, c) ∈ placed ↔ (p, c) ∈ s.cells.toList := by
  obtain ⟨placed, hplaced⟩ : (ofSheet s).cells.toList ∈ Set.range (List.map underText) := by
    rw [Set.range_list_map]
    rintro ⟨key, c⟩ he
    obtain ⟨e, -, heq⟩ := List.mem_map.mp ((mem_toList_ofSheet s).mp he)
    exact ⟨e, heq⟩
  refine ⟨placed, hplaced.symm, fun p c => ?_⟩
  have hmem : underText (p, c) ∈ (ofSheet s).cells.toList ↔
      underText (p, c) ∈ s.cells.toList.map underText := mem_toList_ofSheet s
  rwa [← hplaced, List.mem_map_of_injective underText_injective,
    List.mem_map_of_injective underText_injective] at hmem

/-- The entries whose keys name positions, placed there. -/
def placed (entries : List (String × Cell)) : List (Position × Cell) :=
  entries.filterMap fun e => (Position.parse? e.1).map fun p => (p, e.2)

/-- Entries are placed if every key names a position. -/
theorem mapM_place_eq_ok (sheet : String) {entries : List (String × Cell)}
    (h : ∀ e ∈ entries, Position.parse? e.1 ≠ none) :
    entries.mapM (place sheet) = .ok (placed entries) := by
  induction entries with
  | nil => rfl
  | cons e entries ih =>
    obtain ⟨p, hp⟩ := Option.ne_none_iff_exists'.mp (h e List.mem_cons_self)
    have hplace : place sheet e = .ok (p, e.2) := by
      rw [place, hp]
      rfl
    have hplaced : placed (e :: entries) = (p, e.2) :: placed entries := by
      simp [placed, hp]
    rw [List.mapM_cons, hplace, ih fun e' he' => h e' (List.mem_cons_of_mem _ he'), hplaced]
    rfl

/-- Entries under the texts of positions are placed there. -/
theorem mapM_place_underText (sheet : String) (entries : List (Position × Cell)) :
    (entries.map underText).mapM (place sheet) = .ok entries := by
  have hparse : ∀ e : Position × Cell, Position.parse? (underText e).1 = some e.1 := fun e =>
    Position.parse?_text e.1
  rw [mapM_place_eq_ok]
  · rw [placed, List.filterMap_map]
    congr 1
    refine (List.filterMap_congr fun e _ => ?_).trans List.filterMap_some
    rw [Function.comp_apply, hparse]
    rfl
  · intro e he
    obtain ⟨e', -, rfl⟩ := List.mem_map.mp he
    rw [hparse]
    exact Option.some_ne_none _

/-- A sheet is found again under the texts of its cells. -/
theorem toSheet_ofSheet (s : Sheet) : (ofSheet s).toSheet = .ok s := by
  obtain ⟨placed, hlist, hmem⟩ := exists_toList_ofSheet s
  have hused : placed.filter (fun e => !e.2.isBlank) = placed := by
    rw [List.filter_eq_self]
    rintro ⟨p, c⟩ he
    rw [(Cells.mem_toList.mp ((hmem p c).mp he)).2]
    rfl
  have hcells : Cells.ofList placed = s.cells := by
    ext1 p
    refine Cells.get_setAll_eq (fun d hd => ?_) fun hnone => ?_
    · exact (Cells.mem_toList.mp ((hmem p d).mp hd)).1.symm
    · -- a cell that is not listed is not in use
      rw [Cells.get_empty]
      by_contra hne
      have huse : (s.cells.get p).isBlank = false := Cell.isBlank_eq_false_iff.mpr (Ne.symm hne)
      exact hnone _ ((hmem p _).mpr (Cells.mem_toList.mpr ⟨rfl, huse⟩))
  rw [toSheet, hlist, mapM_place_underText]
  show Except.ok (⟨s.name, .ofList (placed.filter fun e => !e.2.isBlank), s.charts⟩ : Sheet) = _
  rw [hused, hcells]

end StoredSheet

/-! ## Documents as trees -/

variable {v : Value}

namespace Chart

theorem ofValue_of_readsAs {c : Chart} (h : v.readsAs c.toValue = true) : ofValue v = .ok c := by
  have hname : Fills fields [("name", .text c.name)] ⟨"", "", "", ""⟩ ⟨c.name, "", "", ""⟩ :=
    .single rfl fun _ hu => Field.fill_required (asText_of_readsAs hu) _
  have hkind : Fills fields [("chart_type", .text c.kind)] ⟨c.name, "", "", ""⟩
      ⟨c.name, c.kind, "", ""⟩ :=
    .single rfl fun _ hu => Field.fill_required (asText_of_readsAs hu) _
  have hsource : Fills fields [("source", .text c.source)] ⟨c.name, c.kind, "", ""⟩
      ⟨c.name, c.kind, c.source, ""⟩ :=
    .single rfl fun _ hu => Field.fill_required (asText_of_readsAs hu) _
  have htitle : Fills fields [("title", .text c.title)] ⟨c.name, c.kind, c.source, ""⟩ c :=
    .single rfl fun _ hu => Field.fill_required (asText_of_readsAs hu) _
  exact readRecord_of_fills (hname.append (hkind.append (hsource.append htitle))) (by simp)
    (by simp [fields, Field.required]) h

end Chart

namespace Cell

/-- A formula fills its field if there is one; else the field stays empty. -/
theorem fills_formula (c : Cell) (value : String) :
    Fills fields
      (match c.formula with
        | none => []
        | some formula => [("formula", .text formula)])
      ⟨value, none, false, ""⟩ ⟨value, c.formula, false, ""⟩ := by
  cases c.formula with
  | none => exact .nil _ _
  | some formula =>
    exact .single rfl fun _ hu => Field.fill_optional
      (asOptional_of_readsAs (isNull_of_readsAs_text hu) (asText_of_readsAs hu)) _

theorem ofValue_of_readsAs {c : Cell} (h : v.readsAs c.toValue = true) : ofValue v = .ok c := by
  have hvalue : Fills fields (if c.value = "" then [] else [("value", .text c.value)]) .blank
      ⟨c.value, none, false, ""⟩ := by
    split
    next hempty =>
      rw [hempty]
      exact .nil _ _
    next => exact .single rfl fun _ hu => Field.fill_optional (asText_of_readsAs hu) _
  have hformula := c.fills_formula c.value
  have hbold : Fills fields (if c.bold then [("bold", .flag true)] else [])
      ⟨c.value, c.formula, false, ""⟩ ⟨c.value, c.formula, c.bold, ""⟩ := by
    cases c.bold with
    | false => exact .nil _ _
    | true => exact .single rfl fun _ hu => Field.fill_optional (asFlag_of_readsAs hu) _
  have hfill : Fills fields (if c.fill = "" then [] else [("fill", .text c.fill)])
      ⟨c.value, c.formula, c.bold, ""⟩ c := by
    split
    next hempty =>
      have hc : c = ⟨c.value, c.formula, c.bold, ""⟩ := by rw [← hempty]
      rw [← hc]
      exact .nil _ _
    next => exact .single rfl fun _ hu => Field.fill_optional (asText_of_readsAs hu) _
  refine readRecord_of_fills
    (hvalue.append (hformula.append (hbold.append (hfill.append (.nil _ _))))) ?_
    (by simp [fields, Field.optional]) h
  cases c.formula <;> cases c.bold <;> by_cases hempty : c.value = "" <;>
    by_cases hplain : c.fill = "" <;> simp [hempty, hplain]

end Cell

/-- A stored sheet is read as it was written. -/
theorem StoredSheet.ofValue_of_readsAs {r : StoredSheet} (h : v.readsAs r.toValue = true) :
    ofValue v = .ok r := by
  have hname : Fills fields [("name", .text r.name)] ⟨"", ∅, []⟩ ⟨r.name, ∅, []⟩ :=
    .single rfl fun _ hu => Field.fill_required (asText_of_readsAs hu) _
  have hcells : Fills fields
      [("cells", .map (r.cells.toList.map fun e => (e.1, e.2.toValue)))]
      ⟨r.name, ∅, []⟩ ⟨r.name, r.cells, []⟩ := by
    refine .single rfl fun u hu => ?_
    rw [← cellsOfEntries_toList r.cells]
    exact Field.fill_optional
      (asMap_of_readsAs (fun _ _ _ hc => Cell.ofValue_of_readsAs hc) hu) _
  have hcharts : Fills fields [("charts", .items (r.charts.map Chart.toValue))]
      ⟨r.name, r.cells, []⟩ r :=
    .single rfl fun _ hu => Field.fill_optional
      (asList_of_readsAs (fun _ _ _ hc => Chart.ofValue_of_readsAs hc) hu) _
  exact readRecord_of_fills (hname.append (hcells.append hcharts)) (by simp)
    (by simp [fields, Field.required, Field.optional]) h

/-- A sheet is read back from its tree. -/
theorem Sheet.ofValue_of_readsAs {s : Sheet} (h : v.readsAs s.toValue = true) :
    ofValue v = .ok s := by
  rw [ofValue, StoredSheet.ofValue_of_readsAs h]
  exact StoredSheet.toSheet_ofSheet s

/-- An address is read as it was written. -/
theorem Grid.Address.ofValue_of_readsAs {a : Address} (h : v.readsAs a.toValue = true) :
    ofValue v = .ok a := by
  have hsheet : Fills fields [("sheet", (a.sheet.map Value.text).getD .null)] ⟨none, ""⟩
      ⟨a.sheet, ""⟩ := by
    refine .single rfl fun u hu => Field.fill_optional ?_ _
    cases hs : a.sheet with
    | none =>
      rw [hs] at hu
      exact asOptional_of_isNull (isNull_of_readsAs_null hu)
    | some name =>
      rw [hs] at hu
      exact asOptional_of_readsAs (isNull_of_readsAs_text hu) (asText_of_readsAs hu)
  have hreference : Fills fields [("reference", .text a.reference)] ⟨a.sheet, ""⟩ a :=
    .single rfl fun _ hu => Field.fill_required (asText_of_readsAs hu) _
  exact readRecord_of_fills (hsheet.append hreference) (by simp)
    (by simp [fields, Field.required, Field.optional]) h

/-- A selection fills its field if there is one; else the field stays empty. -/
theorem Workbook.fills_selection (w : Workbook) :
    Fills fields
      (match w.selection with
        | none => []
        | some a => [("selection", a.toValue)])
      ⟨w.sheets, w.active, none⟩ ⟨w.sheets, w.active, w.selection⟩ := by
  cases w.selection with
  | none => exact .nil _ _
  | some a =>
    exact .single rfl fun _ hu => Field.fill_optional
      (asOptional_of_readsAs (isNull_of_readsAs_map hu) (Address.ofValue_of_readsAs hu)) _

/-- A workbook is read back from its tree. -/
theorem Workbook.ofValue_of_readsAs {w : Workbook} (h : v.readsAs w.toValue = true) :
    ofValue v = .ok w := by
  have hsheets : Fills fields [("sheets", .items (w.sheets.map Sheet.toValue))] ⟨[], 0, none⟩
      ⟨w.sheets, 0, none⟩ :=
    .single rfl fun _ hu => Field.fill_required
      (asList_of_readsAs (fun _ _ _ hs => Sheet.ofValue_of_readsAs hs) hu) _
  have hactive : Fills fields [("active", .number w.active)] ⟨w.sheets, 0, none⟩
      ⟨w.sheets, w.active, none⟩ :=
    .single rfl fun _ hu => Field.fill_optional (asCount_of_readsAs hu) _
  refine readRecord_of_fills ((hsheets.append hactive).append w.fills_selection) ?_
    (by simp [fields, Field.required, Field.optional]) h
  cases w.selection <;> simp

/-- A command is read as it was written if its kind has a name that is read as that kind. -/
theorem Command.ofValue_of_readsAs {c : Command} (hc : c.kind.IsNamed)
    (h : v.readsAs c.toValue = true) : ofValue v = .ok c := by
  have hkind : Fills fields [("type", .text c.kind.name)] ⟨.failed, [], ""⟩ ⟨c.kind, [], ""⟩ := by
    have hfound : (⟨.ofName c.kind.name, [], ""⟩ : Command) = ⟨c.kind, [], ""⟩ := by
      rw [show Kind.ofName c.kind.name = c.kind from hc]
    rw [← hfound]
    exact .single rfl fun _ hu => Field.fill_required (asText_of_readsAs hu) _
  have hargs : Fills fields [("args", .items (c.args.map .text))] ⟨c.kind, [], ""⟩
      ⟨c.kind, c.args, ""⟩ :=
    .single rfl fun _ hu => Field.fill_required
      (asList_of_readsAs (fun _ _ _ ha => asText_of_readsAs ha) hu) _
  have hlabel : Fills fields [("original", .text c.label)] ⟨c.kind, c.args, ""⟩ c :=
    .single rfl fun _ hu => Field.fill_required (asText_of_readsAs hu) _
  exact readRecord_of_fills (hkind.append (hargs.append hlabel)) (by simp)
    (by simp [fields, Field.required]) h

/-- Whether every command of a history has a kind that is found under its name. -/
def History.KindsNamed (h : History) : Prop :=
  ∀ batch ∈ h.batches, ∀ c ∈ batch, c.kind.IsNamed

instance (h : History) : Decidable h.KindsNamed :=
  inferInstanceAs (Decidable (∀ batch ∈ h.batches, ∀ c ∈ batch, c.kind.IsNamed))

theorem History.kindsNamed_withDepth (depth : Nat) : (withDepth depth).KindsNamed :=
  fun _ hbatch => absurd hbatch List.not_mem_nil

/-- A history is read back from its tree, with the depth it has. -/
theorem History.ofValue_of_readsAs {hist : History} (hkinds : hist.KindsNamed)
    (h : v.readsAs hist.toValue = true) : ofValue v = .ok hist := by
  have hdepth : Fills fields [("depth", .number hist.depth)] .new
      ⟨hist.depth, []⟩ :=
    .single rfl fun _ hu => Field.fill_required (asCount_of_readsAs hu) _
  have hbatches : Fills fields
      [("batches", .items (hist.batches.map fun batch => .items (batch.map Command.toValue)))]
      ⟨hist.depth, []⟩ hist :=
    .single rfl fun _ hu => Field.fill_required
      (asList_of_readsAs (fun batch hbatch _ hb =>
        asList_of_readsAs (fun c hc _ hu => Command.ofValue_of_readsAs (hkinds batch hbatch c hc) hu)
          hb) hu) _
  exact readRecord_of_fills (hdepth.append hbatches) (by simp)
    (by simp [fields, Field.required]) h

/-! ## What is read -/

/-- A command that was read has such a kind. -/
theorem Command.isNamed_of_ofValue {c : Command} (h : ofValue v = .ok c) : c.kind.IsNamed := by
  refine readRecord_keeps (fun c : Command => c.kind.IsNamed) ?_ ?_ h
  · exact Kind.isNamed_failed
  intro f hf u c c' hc hfill
  simp only [fields, List.mem_cons, List.not_mem_nil, or_false] at hf
  rcases hf with rfl | rfl | rfl
  · obtain ⟨name, -, rfl⟩ := Field.exists_of_fill_required hfill
    simpa only using Kind.isNamed_ofName name
  · obtain ⟨args, -, rfl⟩ := Field.exists_of_fill_required hfill
    exact hc
  · obtain ⟨label, -, rfl⟩ := Field.exists_of_fill_required hfill
    exact hc

/-- Kinds that were read were found under a name. -/
theorem History.kindsNamed_of_ofValue {hist : History} (h : ofValue v = .ok hist) :
    hist.KindsNamed := by
  refine readRecord_keeps KindsNamed ?_ ?_ h
  · exact kindsNamed_withDepth _
  intro f hf u hist hist' hkinds hfill
  simp only [fields, List.mem_cons, List.not_mem_nil, or_false] at hf
  rcases hf with rfl | rfl
  · obtain ⟨depth, -, rfl⟩ := Field.exists_of_fill_required hfill
    exact hkinds
  · obtain ⟨batches, hread, rfl⟩ := Field.exists_of_fill_required hfill
    intro batch hbatch c hc
    obtain ⟨w, hw⟩ := exists_of_asList hread hbatch
    obtain ⟨x, hx⟩ := exists_of_asList hw hc
    exact Command.isNamed_of_ofValue hx

/-! ## Documents as texts -/

/-- A format gives a tree back: what it reads from the text of the tree is read wherever the tree is
meant. -/
def Format.Keeps (format : Format) (v : Value) : Prop :=
  (format.parse? (format.render v)).any (·.readsAs v) = true

instance (format : Format) (v : Value) : Decidable (format.Keeps v) :=
  inferInstanceAs (Decidable ((format.parse? (format.render v)).any (·.readsAs v) = true))

variable {format : Format}

/-- A tree that the format gives back is read as the document it was written for. -/
theorem Format.read?_render {α : Type} {decode : Value → Except DataError α} {a : α}
    (hkeeps : format.Keeps v) (hdecode : ∀ u, u.readsAs v = true → decode u = .ok a) :
    format.read? decode (format.render v) = some a := by
  obtain ⟨u, hparse, hu⟩ := (Option.any_eq_true _ _).mp hkeeps
  rw [read?, hparse]
  show (decode u).toOption = some a
  rw [hdecode u hu]
  rfl

/-- A workbook is loaded as it was saved. -/
theorem Workbook.load?_save {w : Workbook} (h : format.Keeps w.toValue) :
    load? format (some (w.save format)) = some w :=
  Format.read?_render h fun _ hu => ofValue_of_readsAs hu

/-- A history is loaded as it was saved, cut to the depth that is asked for. -/
theorem History.load?_save {hist : History} (hkinds : hist.KindsNamed)
    (h : format.Keeps hist.toValue) (depth : Nat) :
    load? format depth (some (hist.save format)) = some (hist.setDepth depth) := by
  have hread := Format.read?_render h fun _ hu => ofValue_of_readsAs hkinds hu
  rw [load?]
  show (format.read? ofValue (format.render hist.toValue)).map (·.setDepth depth) = _
  rw [hread]
  rfl

end SheetScript
