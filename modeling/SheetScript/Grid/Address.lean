import SheetScript.Text.Blank

/-!
# Addresses

An address is a reference with an optional sheet name before it, as in `Data!A1:B2` or
`'My Sheet'!C3`. The reference is kept as it was written; what it names is decided by the workbook.

- `Address.parse`: the address a text names.
- `Address.text`: the notation, with quotes around a sheet name that is not one plain word.
-/

namespace SheetScript.Grid

/-- A reference, on a named sheet or on the active one. -/
@[ext] structure Address where
  sheet : Option String
  reference : String
deriving DecidableEq, Repr

/-- Why a text is no address. -/
inductive AddressError where
  /-- There is an exclamation mark, but no sheet name before it. -/
  | missingSheet (text : String)
  | missingReference
deriving DecidableEq, Repr

/-- The wording of an error. -/
def AddressError.message : AddressError → String
  | .missingSheet text => "missing sheet name in " ++ text
  | .missingReference => "missing address"

namespace Address

/-- A single quotation mark. -/
def quote : Char := Char.ofNat 39

/-- The sheet name written before the exclamation mark: all quotes go, then the blanks around. -/
def sheetChars (cs : List Char) : List Char :=
  Text.trimChars (cs.filter (· != quote))

/-- The address that some text without surrounding blanks names. The first exclamation mark ends the
sheet name. -/
def ofChars (cs : List Char) : Except AddressError Address :=
  let before := cs.takeWhile (· != '!')
  match cs.dropWhile (· != '!') with
  | _ :: after =>
    if sheetChars before = [] then throw (.missingSheet (String.ofList cs))
    else if Text.trimChars after = [] then throw .missingReference
    else
      pure ⟨some (String.ofList (sheetChars before)), String.ofList (Text.trimChars after)⟩
  | [] => if cs = [] then throw .missingReference else pure ⟨none, String.ofList cs⟩

/-- The address a text names. -/
def parse (s : String) : Except AddressError Address :=
  ofChars (Text.trimChars s.toList)

/-- The same sheet with another reference. -/
def withReference (a : Address) (reference : String) : Address :=
  { a with reference }

/-- Whether a sheet name needs no quotes: it has ASCII letters, digits and underscores only. -/
def isPlainName (name : String) : Bool :=
  name.toList.all fun c => c.isAlphanum || c == '_'

/-- The notation of an address. -/
def text (a : Address) : String :=
  match a.sheet with
  | none => a.reference
  | some name =>
    if isPlainName name then name ++ "!" ++ a.reference
    else String.singleton quote ++ name ++ String.singleton quote ++ "!" ++ a.reference

end Address

end SheetScript.Grid
