import SheetScript.Yaml.Token

/-!
# Reading YAML

A document is a tree of maps and lists, in blocks or in brackets, with texts without quotes, in quotes
or in blocks as leaves. A text without quotes is left open, since what it stands for depends on its
place. What is missing is an unquoted scalar without characters. Not read are anchors, tags,
directives, and files with several documents.

- `readNode`: the tree that some tokens start with.
- `Yaml.parse?`: a whole document.
-/

namespace SheetScript.Yaml

/-- What stands where a tree is missing. -/
def missing : Value := .scalar ""

/-- The text of a scalar. -/
def scalarText? : Value → Option String
  | .text s | .scalar s => some s
  | _ => none

/-- The map with some entries. -/
def mapOfEntries (entries : List (Value × Value)) : Value :=
  match entries.mapM fun (k, v) => (scalarText? k).map (·, v) with
  | some entries => .map entries
  | none => .oddMap

/-- Whether the tree after a dash is missing. -/
def endsItem : List Token → Bool
  | .dash :: _ | .blockEnd :: _ => true
  | _ => false

/-- Whether a key or a value of a map in a block is missing. -/
def endsEntry : List Token → Bool
  | .key :: _ | .colon :: _ | .blockEnd :: _ => true
  | _ => false

/-- Whether the value of an entry in brackets is missing. -/
def endsInside (bracket : Bracket) : List Token → Bool
  | .comma :: _ => true
  | .closing b :: _ => b == bracket
  | _ => false

/-- Whether the key of an entry in brackets is missing. -/
def endsKeyInside (bracket : Bracket) : List Token → Bool
  | .colon :: _ => true
  | ts => endsInside bracket ts

/-- The tokens of the next item or entry in brackets, behind the comma that has to stand before all but
the first one. -/
def behindComma (first : Bool) : List Token → Option (List Token)
  | .comma :: ts => if first then some (.comma :: ts) else some ts
  | ts => if first then some ts else none

mutual

/-- Read a tree. If `dashes` is set, the items of a list may come without the start of a block. -/
def readNode : Nat → Bool → List Token → Option (Value × List Token)
  | 0, _, _ => none
  | fuel + 1, dashes, ts =>
    match ts with
    | .scalar v :: ts => some (v, ts)
    | .opening .list :: ts => (readItemsInside fuel true ts).map fun (vs, ts) => (.items vs, ts)
    | .opening .map :: ts =>
      (readEntriesInside fuel true ts).map fun (es, ts) => (mapOfEntries es, ts)
    | .blockList :: ts => (readItems fuel ts).map fun (vs, ts) => (.items vs, ts)
    | .blockMap :: ts => (readEntries fuel ts).map fun (es, ts) => (mapOfEntries es, ts)
    | .dash :: _ =>
      if dashes then (readLooseItems fuel ts).map fun (vs, ts) => (.items vs, ts) else none
    | _ => none

/-- Read the items of a list in a block, up to the end of the block. -/
def readItems : Nat → List Token → Option (List Value × List Token)
  | 0, _ => none
  | fuel + 1, ts =>
    match ts with
    | .dash :: ts => do
      let (v, ts) ← if endsItem ts then some (missing, ts) else readNode fuel false ts
      let (vs, ts) ← readItems fuel ts
      some (v :: vs, ts)
    | .blockEnd :: ts => some ([], ts)
    | _ => none

/-- Read the items of a list at the margin of the map around it. -/
def readLooseItems : Nat → List Token → Option (List Value × List Token)
  | 0, _ => none
  | fuel + 1, ts =>
    match ts with
    | .dash :: ts => do
      let (v, ts) ←
        if endsItem ts || endsEntry ts then some (missing, ts) else readNode fuel false ts
      let (vs, ts) ← readLooseItems fuel ts
      some (v :: vs, ts)
    | _ => some ([], ts)

/-- Read the entries of a map in a block, up to the end of the block. -/
def readEntries : Nat → List Token → Option (List (Value × Value) × List Token)
  | 0, _ => none
  | fuel + 1, ts =>
    match ts with
    | .key :: ts => do
      let (k, ts) ← if endsEntry ts then some (missing, ts) else readNode fuel true ts
      let (v, ts) ← match ts with
        | .colon :: ts => if endsEntry ts then some (missing, ts) else readNode fuel true ts
        | _ => some (missing, ts)
      let (es, ts) ← readEntries fuel ts
      some ((k, v) :: es, ts)
    | .blockEnd :: ts => some ([], ts)
    | _ => none

/-- Read the value behind a key in brackets. -/
def readValueInside : Nat → Bracket → List Token → Option (Value × List Token)
  | 0, _, _ => none
  | fuel + 1, bracket, ts =>
    match ts with
    | .colon :: ts =>
      if endsInside bracket ts then some (missing, ts) else readNode fuel false ts
    | _ => some (missing, ts)

/-- Read the items of a list in brackets. `first` says whether no item was read yet. A key with a value
is an item that stands for a map of one entry; the token behind a missing key does not count. -/
def readItemsInside : Nat → Bool → List Token → Option (List Value × List Token)
  | 0, _, _ => none
  | fuel + 1, first, ts =>
    match ts with
    | .closing .list :: ts => some ([], ts)
    | _ => do
      let ts ← behindComma first ts
      match ts with
      | .closing .list :: ts => some ([], ts)
      | .key :: ts =>
        let (k, ts) ←
          if endsKeyInside .list ts then some (missing, ts.tail) else readNode fuel false ts
        let (v, ts) ← readValueInside fuel .list ts
        let (vs, ts) ← readItemsInside fuel false ts
        some (mapOfEntries [(k, v)] :: vs, ts)
      | _ =>
        let (v, ts) ← readNode fuel false ts
        let (vs, ts) ← readItemsInside fuel false ts
        some (v :: vs, ts)

/-- Read the entries of a map in brackets. `first` says whether no entry was read yet. An entry without
a colon has no value. -/
def readEntriesInside : Nat → Bool → List Token → Option (List (Value × Value) × List Token)
  | 0, _, _ => none
  | fuel + 1, first, ts =>
    match ts with
    | .closing .map :: ts => some ([], ts)
    | _ => do
      let ts ← behindComma first ts
      match ts with
      | .closing .map :: ts => some ([], ts)
      | .key :: ts =>
        let (k, ts) ←
          if endsKeyInside .map ts then some (missing, ts) else readNode fuel false ts
        let (v, ts) ← readValueInside fuel .map ts
        let (es, ts) ← readEntriesInside fuel false ts
        some ((k, v) :: es, ts)
      | _ =>
        let (k, ts) ← readNode fuel false ts
        let (es, ts) ← readEntriesInside fuel false ts
        some ((k, missing) :: es, ts)

end

/-! ## Documents -/

/-- Whether a document has no contents. -/
def endsDocument : List Token → Bool
  | [] | .documentStart :: _ | .documentEnd :: _ => true
  | _ => false

/-- Read a document. It may have no contents only behind its start mark or in an empty file. -/
def readDocument (ts : List Token) : Option (Value × List Token) :=
  let fuel := 2 * ts.length + 2
  match ts with
  | [] => some (missing, [])
  | .documentStart :: ts =>
    if endsDocument ts then some (missing, ts) else readNode fuel false ts
  | _ => readNode fuel false ts

/-- Whether nothing is left but marks after a document. -/
def onlyEndMarks (ts : List Token) : Bool :=
  ts.all fun
    | .documentEnd => true
    | _ => false

/-- The data tree of a text that is one YAML document. -/
def parse? (s : String) : Option Value := do
  let (v, ts) ← readDocument (← Token.ofText? s)
  if onlyEndMarks ts then some v else none

end SheetScript.Yaml
