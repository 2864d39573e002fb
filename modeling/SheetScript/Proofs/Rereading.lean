import Mathlib.Data.List.Forall2
import SheetScript.Value.Read

/-!
# Reading what was written

A tree that was written to a text and read from it is not the same tree: unquoted scalars are left open.
What counts is that it is read as the same data. Readers are put together from smaller ones, and what
they do to such a tree follows from what the smaller ones do.

- `readsAs`: whether a tree is read wherever another one is meant; it can be tested.
- `asList_of_readsAs`, `asMap_of_readsAs`, `asOptional_of_readsAs`: collections.
- `Fills`: what some entries of a record do to a draft; `Fills.append`, `Fills.single`.
- `readRecord_of_fills`: records.
-/

namespace SheetScript

/-! ## Results that may be errors -/

theorem toOption_eq_some_iff {ε α : Type} {r : Except ε α} {a : α} :
    r.toOption = some a ↔ r = .ok a := by
  cases r <;> simp [Except.toOption]

/-- Two steps that lead to a result both have one. -/
theorem bind_eq_ok {ε α β : Type} {x : Except ε α} {f : α → Except ε β} {b : β}
    (h : (x >>= f) = .ok b) : ∃ a, x = .ok a ∧ f a = .ok b := by
  cases x with
  | error e => cases h
  | ok a => exact ⟨a, rfl, h⟩

/-- If two steps end in an error, it is that of the first one, or of the second one after it. -/
theorem bind_eq_error {ε α β : Type} {x : Except ε α} {f : α → Except ε β} {e : ε}
    (h : x >>= f = .error e) : x = .error e ∨ ∃ a, x = .ok a ∧ f a = .error e := by
  cases x with
  | error e' =>
    cases h
    exact Or.inl rfl
  | ok a => exact Or.inr ⟨a, rfl, h⟩

namespace Value

variable {α ρ : Type} {v w : Value} {vs ws : List Value} {es entries : List (String × Value)}

/-! ## Trees that read alike -/

mutual

/-- Whether the first tree is read wherever the second one is meant. A scalar may be open in the first
one. -/
@[simp]
def readsAs : Value → Value → Bool
  | v, null => v.isNull
  | v, flag b => v.asFlag.toOption == some b
  | v, number n => v.asCount.toOption.map Int.ofNat == some n
  | v, text s => v.asText.toOption == some s && !v.isNull
  | list _ vs, list _ ws => itemsReadAs vs ws
  | map es, map entries => entriesReadAs es entries
  | _, _ => false

/-- The same for lists of trees. -/
@[simp]
def itemsReadAs : List Value → List Value → Bool
  | [], [] => true
  | v :: vs, w :: ws => readsAs v w && itemsReadAs vs ws
  | _, _ => false

/-- The same for the entries of maps, which have the same keys. -/
@[simp]
def entriesReadAs : List (String × Value) → List (String × Value) → Bool
  | [], [] => true
  | (key, v) :: es, (key', w) :: entries =>
    key == key' && readsAs v w && entriesReadAs es entries
  | _, _ => false

end

/-! ## Scalars -/

/-- What stands for nothing is read as nothing. -/
theorem isNull_of_readsAs_null (h : v.readsAs null = true) : v.isNull = true := by
  rwa [readsAs] at h

/-- What stands for a flag is read as that flag. -/
theorem asFlag_of_readsAs {b : Bool} (h : v.readsAs (flag b) = true) : v.asFlag = .ok b := by
  rw [readsAs, beq_iff_eq] at h
  exact toOption_eq_some_iff.mp h

theorem asCount_of_readsAs {n : Nat} (h : v.readsAs (number n) = true) : v.asCount = .ok n := by
  rw [readsAs, beq_iff_eq, Option.map_eq_some_iff] at h
  obtain ⟨m, hm, heq⟩ := h
  obtain rfl : m = n := Int.ofNat.inj heq
  exact toOption_eq_some_iff.mp hm

/-- What stands for a text is read as that text, whatever else the text could be. -/
theorem asText_of_readsAs {s : String} (h : v.readsAs (text s) = true) : v.asText = .ok s := by
  rw [readsAs, Bool.and_eq_true, beq_iff_eq] at h
  exact toOption_eq_some_iff.mp h.1

theorem isNull_of_readsAs_text {s : String} (h : v.readsAs (text s) = true) : v.isNull = false := by
  rw [readsAs, Bool.and_eq_true, Bool.not_eq_true'] at h
  exact h.2

/-! ## Collections -/

/-- Only a list stands for a list, item by item. -/
theorem exists_of_readsAs_list {positional : Bool}
    (h : v.readsAs (list positional ws) = true) :
    ∃ p vs, v = list p vs ∧ itemsReadAs vs ws = true := by
  cases v with
  | list p vs => exact ⟨p, vs, rfl, by rwa [readsAs] at h⟩
  | _ => simp [readsAs] at h

/-- Only a map stands for a map, with the same keys in the same order. -/
theorem exists_of_readsAs_map (h : v.readsAs (map entries) = true) :
    ∃ es, v = map es ∧ entriesReadAs es entries = true := by
  cases v with
  | map es => exact ⟨es, rfl, by rwa [readsAs] at h⟩
  | _ => simp [readsAs] at h

theorem isNull_of_readsAs_map (h : v.readsAs (map entries) = true) : v.isNull = false := by
  obtain ⟨es, rfl, -⟩ := exists_of_readsAs_map h
  rfl

/-- The first item stands for the first, and the others for the others. -/
theorem itemsReadAs_cons (h : itemsReadAs vs (w :: ws) = true) :
    ∃ u us, vs = u :: us ∧ u.readsAs w = true ∧ itemsReadAs us ws = true := by
  cases vs with
  | nil => simp [itemsReadAs] at h
  | cons u us =>
    rw [itemsReadAs, Bool.and_eq_true] at h
    exact ⟨u, us, rfl, h⟩

theorem itemsReadAs_nil (h : itemsReadAs vs [] = true) : vs = [] := by
  cases vs with
  | nil => rfl
  | cons u us => simp [itemsReadAs] at h

theorem entriesReadAs_cons {key : String} (h : entriesReadAs es ((key, w) :: entries) = true) :
    ∃ u rest, es = (key, u) :: rest ∧ u.readsAs w = true ∧ entriesReadAs rest entries = true := by
  cases es with
  | nil => simp [entriesReadAs] at h
  | cons e rest =>
    obtain ⟨key', u⟩ := e
    simp only [entriesReadAs, Bool.and_eq_true, beq_iff_eq] at h
    obtain ⟨⟨rfl, hu⟩, hrest⟩ := h
    exact ⟨u, rest, rfl, hu, hrest⟩

theorem entriesReadAs_nil (h : entriesReadAs es [] = true) : es = [] := by
  cases es with
  | nil => rfl
  | cons e rest => simp [entriesReadAs] at h

/-- What stands for two parts of a map can be parted as well. -/
theorem entriesReadAs_append {first second : List (String × Value)}
    (h : entriesReadAs es (first ++ second) = true) :
    ∃ es₁ es₂, es = es₁ ++ es₂ ∧ entriesReadAs es₁ first = true ∧
      entriesReadAs es₂ second = true := by
  induction first generalizing es with
  | nil => exact ⟨[], es, rfl, rfl, h⟩
  | cons e first ih =>
    obtain ⟨key, w⟩ := e
    obtain ⟨u, rest, rfl, hu, hrest⟩ := entriesReadAs_cons h
    obtain ⟨es₁, es₂, rfl, h₁, h₂⟩ := ih hrest
    exact ⟨(key, u) :: es₁, es₂, rfl, by simp [entriesReadAs, hu, h₁], h₂⟩

/-- The keys are the same. -/
theorem map_fst_of_entriesReadAs (h : entriesReadAs es entries = true) :
    es.map Prod.fst = entries.map Prod.fst := by
  induction entries generalizing es with
  | nil => rw [entriesReadAs_nil h]
  | cons e entries ih =>
    obtain ⟨u, rest, rfl, -, hrest⟩ := entriesReadAs_cons h
    rw [List.map_cons, List.map_cons, ih hrest]

variable {read : Value → Except DataError α} {write : α → Value}

/-- If items are read as they were written, so is a list of them. -/
theorem asList_of_readsAs {as : List α}
    (hread : ∀ a ∈ as, ∀ u, u.readsAs (write a) = true → read u = .ok a)
    (h : v.readsAs (items (as.map write)) = true) : asList read v = .ok as := by
  obtain ⟨p, vs, rfl, hvs⟩ := exists_of_readsAs_list h
  show vs.mapM read = .ok as
  clear h
  induction as generalizing vs with
  | nil =>
    rw [itemsReadAs_nil hvs]
    rfl
  | cons a as ih =>
    obtain ⟨u, us, rfl, hu, hus⟩ := itemsReadAs_cons hvs
    rw [List.mapM_cons, hread a List.mem_cons_self u hu,
      ih (fun b hb => hread b (List.mem_cons_of_mem _ hb)) us hus]
    rfl

/-- If values are read as they were written, so is a map of them. -/
theorem asMap_of_readsAs {as : List (String × α)}
    (hread : ∀ e ∈ as, ∀ u, u.readsAs (write e.2) = true → read u = .ok e.2)
    (h : v.readsAs (map (as.map fun e => (e.1, write e.2))) = true) : asMap read v = .ok as := by
  obtain ⟨es, rfl, hes⟩ := exists_of_readsAs_map h
  show es.mapM (fun e => do return (e.1, ← read e.2)) = .ok as
  clear h
  induction as generalizing es with
  | nil =>
    rw [entriesReadAs_nil hes]
    rfl
  | cons a as ih =>
    obtain ⟨u, rest, rfl, hu, hrest⟩ := entriesReadAs_cons hes
    rw [List.mapM_cons, hread a List.mem_cons_self u hu,
      ih (fun b hb => hread b (List.mem_cons_of_mem _ hb)) rest hrest]
    rfl

/-- An optional value that is not nothing is read like any other. -/
theorem asOptional_of_readsAs {a : α} (hnull : v.isNull = false) (hread : read v = .ok a) :
    asOptional read v = .ok (some a) := by
  rw [asOptional, hnull, hread]
  rfl

theorem asOptional_of_isNull (hnull : v.isNull = true) : asOptional read v = .ok none := by
  rw [asOptional, hnull]
  rfl

/-! ## Records -/

variable {fields : List (Field ρ)} {draft draft' filled : ρ} {f : Field ρ} {key : String}

/-- A draft after some entries of a record were put into it. Nothing is asked of the keys. -/
def fillAll (fields : List (Field ρ)) : ρ → List (String × Value) → Except DataError ρ
  | draft, [] => pure draft
  | draft, (key, v) :: es =>
    match fields.find? (·.name == key) with
    | none => fillAll fields draft es
    | some f => do fillAll fields (← f.fill v draft) es

/-- The first entry fills its field, and the others go on from there. -/
theorem fillAll_cons (hf : fields.find? (·.name == key) = some f) (hv : f.fill v draft = .ok draft')
    (es : List (String × Value)) :
    fillAll fields draft ((key, v) :: es) = fillAll fields draft' es := by
  rw [fillAll, hf]
  simp only [hv]
  rfl

/-- Two parts of a map fill their fields one after the other. -/
theorem fillAll_append {first second : List (String × Value)}
    (h : fillAll fields draft first = .ok draft') :
    fillAll fields draft (first ++ second) = fillAll fields draft' second := by
  induction first generalizing draft with
  | nil =>
    cases h
    rfl
  | cons e first ih =>
    obtain ⟨key, v⟩ := e
    rw [fillAll] at h
    rw [List.cons_append, fillAll]
    cases hf : fields.find? (·.name == key) with
    | none =>
      rw [hf] at h
      exact ih h
    | some f =>
      rw [hf] at h
      cases hv : f.fill v draft with
      | error cause =>
        simp only [hv] at h
        cases h
      | ok filled =>
        simp only [hv] at h ⊢
        exact ih h

/-- If no key is repeated and none that is required is missing, a record is its draft with all entries
put into it. -/
theorem readEntries_of_fillAll {seen : List String} (h : fillAll fields draft es = .ok filled)
    (hnodup : (es.map Prod.fst).Nodup) (hseen : ∀ k ∈ es.map Prod.fst, k ∉ seen)
    (hrequired : ∀ f ∈ fields, f.isRequired = true → f.name ∈ seen ∨ f.name ∈ es.map Prod.fst) :
    readEntries fields seen draft es = .ok filled := by
  induction es generalizing seen draft with
  | nil =>
    have hmissing : (fields.find? fun f => f.isRequired && !seen.contains f.name) = none := by
      rw [List.find?_eq_none]
      intro f hf
      by_cases hreq : f.isRequired = true
      · simpa [hreq] using hrequired f hf hreq
      · simp [hreq]
    rw [readEntries, hmissing]
    exact h
  | cons e es ih =>
    obtain ⟨key, v⟩ := e
    rw [List.map_cons, List.nodup_cons] at hnodup
    have hkey : seen.contains key = false := by
      simpa using hseen key (by simp)
    have hrest : ∀ k ∈ es.map Prod.fst, k ∉ seen := fun k hk =>
      hseen k (List.mem_cons_of_mem _ hk)
    rw [fillAll] at h
    rw [readEntries]
    cases hf : fields.find? (·.name == key) with
    | none =>
      rw [hf] at h
      refine ih h hnodup.2 hrest fun f hmem hreq => ?_
      -- the key is that of no field, so it stands for none that is required
      have hne : f.name ≠ key := by simpa using List.find?_eq_none.mp hf f hmem
      simpa [hne] using hrequired f hmem hreq
    | some f =>
      rw [hf] at h
      simp only [hkey]
      cases hv : f.fill v draft with
      | error cause =>
        simp only [hv] at h
        cases h
      | ok draft' =>
        simp only [hv] at h
        refine ih h hnodup.2 ?_ fun g hg hreq => ?_
        · intro k hk hmem
          rcases List.mem_cons.mp hmem with rfl | hmem
          · exact hnodup.1 hk
          · exact hrest k hk hmem
        · have := hrequired g hg hreq
          simp only [List.map_cons, List.mem_cons] at this ⊢
          tauto

/-- An entry that can be read fills a field that must be there. -/
theorem Field.fill_required {name : String} {put : α → ρ → ρ} {a : α} (h : read v = .ok a)
    (draft : ρ) : (Field.required name read put).fill v draft = .ok (put a draft) := by
  show (do return put (← read v) draft) = Except.ok (put a draft)
  rw [h]
  rfl

theorem Field.fill_optional {name : String} {put : α → ρ → ρ} {a : α} (h : read v = .ok a)
    (draft : ρ) : (Field.optional name read put).fill v draft = .ok (put a draft) := by
  show (do return put (← read v) draft) = Except.ok (put a draft)
  rw [h]
  rfl

/-- What some entries of a record make of a draft, however they were kept. -/
def Fills (fields : List (Field ρ)) (entries : List (String × Value)) (draft filled : ρ) : Prop :=
  ∀ es, entriesReadAs es entries = true → fillAll fields draft es = .ok filled

namespace Fills

theorem nil (fields : List (Field ρ)) (draft : ρ) : Fills fields [] draft draft := by
  intro es hes
  rw [entriesReadAs_nil hes]
  rfl

/-- Entries that fill some fields, and others that fill more, fill all of them together. -/
theorem append {first second : List (String × Value)} (h : Fills fields first draft draft')
    (h' : Fills fields second draft' filled) : Fills fields (first ++ second) draft filled := by
  intro es hes
  obtain ⟨es₁, es₂, rfl, h₁, h₂⟩ := entriesReadAs_append hes
  rw [fillAll_append (h es₁ h₁), h' es₂ h₂]

/-- One entry puts into the draft what its field reads. -/
theorem single (hf : fields.find? (·.name == key) = some f)
    (hfill : ∀ u, u.readsAs w = true → f.fill u draft = .ok filled) :
    Fills fields [(key, w)] draft filled := by
  intro es hes
  obtain ⟨u, rest, rfl, hu, hrest⟩ := entriesReadAs_cons hes
  rw [entriesReadAs_nil hrest, fillAll_cons hf (hfill u hu)]
  rfl

end Fills

/-- A record is read as what its entries make of the draft. -/
theorem readRecord_of_fills {expected : String} (h : Fills fields entries draft filled)
    (hnodup : (entries.map Prod.fst).Nodup)
    (hrequired : ∀ f ∈ fields, f.isRequired = true → f.name ∈ entries.map Prod.fst)
    (hv : v.readsAs (map entries) = true) : readRecord expected fields draft v = .ok filled := by
  obtain ⟨es, rfl, hes⟩ := exists_of_readsAs_map hv
  have hkeys := map_fst_of_entriesReadAs hes
  show readEntries fields [] draft es = .ok filled
  refine readEntries_of_fillAll (h es hes) ?_ (by simp) ?_
  · rwa [hkeys]
  · rw [hkeys]
    exact fun f hf hreq => Or.inr (hrequired f hf hreq)

/-! ## What is read -/

/-- Each item of a list that was read has been read from some tree. -/
theorem exists_of_asList {a : α} {as : List α} (h : asList read v = .ok as) (ha : a ∈ as) :
    ∃ u, read u = .ok a := by
  have hitems : ∀ (items : List Value) (as : List α), items.mapM read = .ok as → a ∈ as →
      ∃ u, read u = .ok a := by
    intro items
    induction items with
    | nil =>
      intro as hread ha
      cases hread
      cases ha
    | cons u us ih =>
      intro as hread ha
      rw [List.mapM_cons] at hread
      obtain ⟨b, hb, hread⟩ := bind_eq_ok hread
      obtain ⟨bs, hbs, hread⟩ := bind_eq_ok hread
      cases hread
      rcases List.mem_cons.mp ha with rfl | ha
      · exact ⟨u, hb⟩
      · exact ih bs hbs ha
  unfold asList at h
  split at h
  · exact hitems _ as h ha
  · cases h
    cases ha
  · cases h

namespace Field

variable {name : String} {put : α → ρ → ρ}

/-- A field that was filled has been read. -/
theorem exists_of_fill_required (h : (Field.required name read put).fill v draft = .ok filled) :
    ∃ a, read v = .ok a ∧ filled = put a draft := by
  obtain ⟨a, ha, hput⟩ := bind_eq_ok h
  cases hput
  exact ⟨a, ha, rfl⟩

end Field

/-- What the draft of a record meets and every field keeps, the record meets. -/
theorem readRecord_keeps {expected : String} (P : ρ → Prop) (hdraft : P draft)
    (hfill : ∀ f ∈ fields, ∀ u d d', P d → f.fill u d = .ok d' → P d')
    (h : readRecord expected fields draft v = .ok filled) : P filled := by
  have hentries : ∀ (es : List (String × Value)) (seen : List String) (d : ρ), P d →
      readEntries fields seen d es = .ok filled → P filled := by
    intro es
    induction es with
    | nil =>
      intro seen d hd hread
      rw [readEntries] at hread
      split at hread
      · cases hread
      · cases hread
        exact hd
    | cons e es ih =>
      obtain ⟨key, u⟩ := e
      intro seen d hd hread
      rw [readEntries] at hread
      split at hread
      · exact ih seen d hd hread
      next f hf =>
        split at hread
        · cases hread
        · obtain ⟨d', hd', hread⟩ := bind_eq_ok hread
          exact ih _ d' (hfill f (List.mem_of_find?_eq_some hf) u d d' hd hd') hread
  have hitems : ∀ (fs : List (Field ρ)) (items : List Value) (n : Nat) (d : ρ) (text : String),
      fs ⊆ fields → P d → readItems text n fs d items = .ok filled → P filled := by
    intro fs
    induction fs with
    | nil =>
      intro items n d text _ hd hread
      cases items with
      | nil =>
        cases hread
        exact hd
      | cons u us => cases hread
    | cons f fs ih =>
      intro items n d text hsub hd hread
      obtain ⟨hf, hsub⟩ := List.cons_subset.mp hsub
      cases items with
      | nil =>
        rw [readItems] at hread
        split at hread
        · cases hread
        · exact ih [] n d text hsub hd hread
      | cons u us =>
        obtain ⟨d', hd', hread⟩ := bind_eq_ok hread
        exact ih us (n + 1) d' text hsub (hfill f hf u d d' hd hd') hread
  unfold readRecord at h
  split at h
  · exact hentries _ _ _ hdraft h
  · exact hentries _ _ _ hdraft h
  · exact hitems _ _ _ _ _ (fun _ hf => hf) hdraft h
  · cases h

end Value

end SheetScript
