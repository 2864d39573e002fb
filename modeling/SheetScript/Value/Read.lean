import SheetScript.Value.Basic
import SheetScript.Value.Scalar

/-!
# Reading data trees

What a tree stands for is decided by the place it is read at. A text may be any scalar, quoted or not;
a flag, a count and null have to be unquoted. A record is a map from the names of its fields, or a
positional list of its fields in order; fields it does not have are ignored.

- `asText`, `asFlag`, `asCount`, `asOptional`, `asList`, `asMap`: the simple readings.
- `Field`, `readRecord`: records, with all their fields read in the order in which they come.
-/

namespace SheetScript.Value

/-- A tree does not fit. -/
def misfit {α : Type} (expected : String) (v : Value) : Except DataError α :=
  throw (.wrongType v.describe expected)

/-! ## Scalars -/

/-- Read a text. -/
def asText : Value → Except DataError String
  | text s | scalar s => pure s
  | v => misfit "a string" v

/-- Read a flag. -/
def asFlag : Value → Except DataError Bool
  | flag b => pure b
  | scalar s =>
    match Scalar.flag? s with
    | some b => pure b
    | none => misfit "a boolean" (scalar s)
  | v => misfit "a boolean" v

/-- Read a count, which has 64 bits. -/
def asCount : Value → Except DataError Nat
  | number n =>
    if 0 ≤ n ∧ n ≤ Text.max64 then pure n.toNat
    else throw (.wrongValue (number n).describe "usize")
  | scalar s =>
    match Scalar.natural? Text.max64 s with
    | some n => pure n
    | none => misfit "usize" (scalar s)
  | v => misfit "usize" v

/-- Whether a tree stands for nothing. -/
def isNull : Value → Bool
  | null => true
  | scalar s => s == "" || Scalar.isNullWord s
  | _ => false

/-- Read what may be missing. -/
def asOptional {α : Type} (read : Value → Except DataError α) (v : Value) :
    Except DataError (Option α) :=
  if v.isNull then pure none else some <$> read v

/-! ## Collections -/

/-- Read a list. -/
def asList {α : Type} (read : Value → Except DataError α) : Value → Except DataError (List α)
  | list _ items => items.mapM read
  | scalar "" => pure []
  | v => misfit "a sequence" v

/-- Read a map. -/
def asMap {α : Type} (read : Value → Except DataError α) :
    Value → Except DataError (List (String × α))
  | map entries => entries.mapM fun (k, v) => do return (k, ← read v)
  | scalar "" => pure []
  | v => misfit "a map" v

/-! ## Records -/

/-- A field of a record that is read into a draft of type `ρ`. -/
structure Field (ρ : Type) where
  name : String
  /-- The field has to be there. -/
  isRequired : Bool
  /-- Put the contents of the field into the draft. -/
  fill : Value → ρ → Except DataError ρ

namespace Field

/-- A field that has to be there. -/
def required {ρ α : Type} (name : String) (read : Value → Except DataError α)
    (put : α → ρ → ρ) : Field ρ where
  name
  isRequired := true
  fill v draft := do return put (← read v) draft

/-- A field that can be left out. -/
def optional {ρ α : Type} (name : String) (read : Value → Except DataError α)
    (put : α → ρ → ρ) : Field ρ where
  name
  isRequired := false
  fill v draft := do return put (← read v) draft

end Field

/-- Read the entries of a map into a draft. `seen` has the names of the fields read so far. -/
def readEntries {ρ : Type} (fields : List (Field ρ)) :
    List String → ρ → List (String × Value) → Except DataError ρ
  | seen, draft, [] =>
    match fields.find? fun f => f.isRequired && !seen.contains f.name with
    | some f => throw (.missingField f.name)
    | none => pure draft
  | seen, draft, (key, v) :: entries =>
    match fields.find? (·.name == key) with
    | none => readEntries fields seen draft entries
    | some f =>
      if seen.contains key then throw (.duplicateField key)
      else do readEntries fields (key :: seen) (← f.fill v draft) entries

/-- How many fields a record has, in words. -/
def withFields {ρ : Type} (expected : String) (fields : List (Field ρ)) : String :=
  expected ++ " with " ++ fields.length.repr ++
    (if fields.length = 1 then " element" else " elements")

/-- Read the items of a list into a draft, one per field. `length` is the number of items read so
far. -/
def readItems {ρ : Type} (expected : String) :
    Nat → List (Field ρ) → ρ → List Value → Except DataError ρ
  | _, [], draft, [] => pure draft
  | length, [], _, items =>
    throw (.wrongLength (length + items.length) "fewer elements in array")
  | length, f :: fields, draft, [] =>
    if f.isRequired then throw (.wrongLength length expected)
    else readItems expected length fields draft []
  | length, f :: fields, draft, v :: items => do
    readItems expected (length + 1) fields (← f.fill v draft) items

/-- Read a record into a draft. -/
def readRecord {ρ : Type} (expected : String) (fields : List (Field ρ)) (draft : ρ) :
    Value → Except DataError ρ
  | map entries => readEntries fields [] draft entries
  | scalar "" => readEntries fields [] draft []
  | list true items => readItems (withFields expected fields) 0 fields draft items
  | v => misfit expected v

end SheetScript.Value
