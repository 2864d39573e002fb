import SheetScript.Workbook.Basic

/-!
# A workbook as a document

- `Workbook.host`: batches run directly on a workbook. Its sessions never fail.
- `Guarded`, `Guarded.host`: a workbook behind a connection that can fail. It refuses to open or to
  commit a session on demand, and drops the connection at one chosen text.
-/

namespace SheetScript

namespace Workbook

/-- Read from a workbook. -/
def ask {α : Type} (f : Workbook → Except Failure α) : Call Workbook α := fun w => (f w, w)

/-- Change a workbook. A change that fails leaves it as it was. -/
def act (f : Workbook → Except Failure Workbook) : Call Workbook Unit := fun w =>
  match f w with
  | .ok next => (.ok (), next)
  | .error e => (.error e, w)

/-- Change a workbook and report on it. -/
def actWith {α : Type} (f : Workbook → Except Failure (α × Workbook)) : Call Workbook α := fun w =>
  match f w with
  | .ok (a, next) => (.ok a, next)
  | .error e => (.error e, w)

/-- Batches on a workbook. -/
def host : Host Workbook where
  start := pure ()
  commit := pure ()
  value address := ask (·.value address)
  setValue address text := act (·.setValue address text)
  formula address := ask (·.formula address)
  setFormula address text := act (·.setFormula address text)
  bold address := ask (·.bold address)
  setBold address bold := act (·.setBold address bold)
  fill address := ask (·.fill address)
  setFill address color := act (·.setFill address color)
  clear address := act (·.clear address)
  select address := act (·.select address)
  insert lines shift := act (·.insert lines shift)
  delete lines shift := act (·.delete lines shift)
  copy source target := act (·.copy source target)
  snapshot address := ask (·.snapshot address)
  addSheet name := act (·.addSheet name)
  sheetName name := ask (·.sheetName name)
  renameSheet old new := act (·.renameSheet old new)
  deleteSheet name := act (·.deleteSheet name)
  activateSheet name := act (·.activateSheet name)
  addChart kind source title := actWith (·.addChart kind source title)
  charts := ask (·.charts)
  deleteChart name := act (·.deleteChart name)
  sort address key ascending := act (·.sort address key ascending)

end Workbook

/-- A workbook behind a connection that can fail. -/
structure Guarded where
  book : Workbook
  /-- Sessions cannot be opened. -/
  readOnly : Bool := false
  /-- Sessions cannot be committed. -/
  unsynced : Bool := false
  /-- Writing this text loses the connection. -/
  poison : Option String := none
  /-- How many sessions were committed. -/
  commits : Nat := 0
deriving DecidableEq

namespace Guarded

/-- A call that goes through to the workbook. -/
def pass {α : Type} (call : Call Workbook α) : Call Guarded α := fun g =>
  let (result, book) := call.run g.book
  (result, { g with book })

/-- A call that loses the connection when its text is the poison. -/
def guarded {α : Type} (text : String) (call : Call Workbook α) : Call Guarded α := fun g =>
  if g.poison = some text then (.error (.error (.session "connection lost")), g)
  else pass call g

/-- Batches on a guarded workbook. -/
def host : Host Guarded where
  start := fun g =>
    if g.readOnly then (.error (.error (.session "document is read-only")), g) else (.ok (), g)
  commit := fun g =>
    if g.unsynced then (.error (.error (.session "sync failed")), g)
    else (.ok (), { g with commits := g.commits + 1 })
  value address := pass (Workbook.host.value address)
  setValue address text := guarded text (Workbook.host.setValue address text)
  formula address := pass (Workbook.host.formula address)
  setFormula address text := guarded text (Workbook.host.setFormula address text)
  bold address := pass (Workbook.host.bold address)
  setBold address bold := pass (Workbook.host.setBold address bold)
  fill address := pass (Workbook.host.fill address)
  setFill address color := guarded color (Workbook.host.setFill address color)
  clear address := pass (Workbook.host.clear address)
  select address := pass (Workbook.host.select address)
  insert lines shift := pass (Workbook.host.insert lines shift)
  delete lines shift := pass (Workbook.host.delete lines shift)
  copy source target := pass (Workbook.host.copy source target)
  snapshot address := pass (Workbook.host.snapshot address)
  addSheet name := guarded name (Workbook.host.addSheet name)
  sheetName name := pass (Workbook.host.sheetName name)
  renameSheet old new := pass (Workbook.host.renameSheet old new)
  deleteSheet name := pass (Workbook.host.deleteSheet name)
  activateSheet name := pass (Workbook.host.activateSheet name)
  addChart kind source title := pass (Workbook.host.addChart kind source title)
  charts := pass Workbook.host.charts
  deleteChart name := pass (Workbook.host.deleteChart name)
  sort address key ascending := pass (Workbook.host.sort address key ascending)

end Guarded

end SheetScript
