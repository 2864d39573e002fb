import SheetScript.Host.Basic
import SheetScript.Workbook.Host

/-!
# Calls as data

What can be said about every call of a document is said once, over requests: a request is a call with
its arguments, and a document is what it answers.

- `Request`, `Request.Answer`: the calls, and what they give.
- `Host.answer`, `Host.ofAnswers`: a document as a function of requests; `answer_ofAnswers`.
- `Host.Answers`: a document that keeps a condition and stops everything for some causes only. It can
  answer and refuse as it likes.
- `Host.recorded`: a document that also keeps a list of the calls it got.
- `Guarded.answers`: a workbook behind a connection answers if the workbook does.
-/

namespace SheetScript

open Grid

/-- A call on a document, with its arguments. -/
inductive Request where
  | start
  | commit
  | value (place : Address)
  | setValue (place : Address) (text : String)
  | formula (place : Address)
  | setFormula (place : Address) (text : String)
  | bold (place : Address)
  | setBold (place : Address) (bold : Bool)
  | fill (place : Address)
  | setFill (place : Address) (color : String)
  | clear (place : Address)
  | select (place : Address)
  | insert (lines : Span) (shift : Shift)
  | delete (lines : Span) (shift : Shift)
  | copy (source target : Address)
  | snapshot (place : Address)
  | addSheet (name : String)
  | sheetName (name : Option String)
  | renameSheet (old new : String)
  | deleteSheet (name : String)
  | activateSheet (name : String)
  | addChart (kind : String) (source : Address) (title : String)
  | charts
  | deleteChart (name : String)
  | sort (place : Address) (key : Nat) (ascending : Bool)
deriving DecidableEq, Repr

namespace Request

/-- What a call gives unless it fails. -/
def Answer : Request → Type
  | value _ | formula _ | fill _ | sheetName _ | addChart _ _ _ => String
  | bold _ => Bool
  | snapshot _ => List PlacedCell
  | charts => List ChartEntry
  | _ => Unit

/-- Whether a call is a sort. -/
def isSort : Request → Bool
  | sort _ _ _ => true
  | _ => false

/-- Whether a call opens a session or makes it final. -/
def isSession : Request → Bool
  | start | commit => true
  | _ => false

end Request

namespace Host

variable {σ : Type}

/-- What a document answers to a request. -/
def answer (host : Host σ) : (r : Request) → Call σ r.Answer
  | .start => host.start
  | .commit => host.commit
  | .value place => host.value place
  | .setValue place text => host.setValue place text
  | .formula place => host.formula place
  | .setFormula place text => host.setFormula place text
  | .bold place => host.bold place
  | .setBold place bold => host.setBold place bold
  | .fill place => host.fill place
  | .setFill place color => host.setFill place color
  | .clear place => host.clear place
  | .select place => host.select place
  | .insert lines shift => host.insert lines shift
  | .delete lines shift => host.delete lines shift
  | .copy source target => host.copy source target
  | .snapshot place => host.snapshot place
  | .addSheet name => host.addSheet name
  | .sheetName name => host.sheetName name
  | .renameSheet old new => host.renameSheet old new
  | .deleteSheet name => host.deleteSheet name
  | .activateSheet name => host.activateSheet name
  | .addChart kind source title => host.addChart kind source title
  | .charts => host.charts
  | .deleteChart name => host.deleteChart name
  | .sort place key ascending => host.sort place key ascending

/-- The document that gives certain answers. -/
def ofAnswers (f : (r : Request) → Call σ r.Answer) : Host σ where
  start := f .start
  commit := f .commit
  value place := f (.value place)
  setValue place text := f (.setValue place text)
  formula place := f (.formula place)
  setFormula place text := f (.setFormula place text)
  bold place := f (.bold place)
  setBold place bold := f (.setBold place bold)
  fill place := f (.fill place)
  setFill place color := f (.setFill place color)
  clear place := f (.clear place)
  select place := f (.select place)
  insert lines shift := f (.insert lines shift)
  delete lines shift := f (.delete lines shift)
  copy source target := f (.copy source target)
  snapshot place := f (.snapshot place)
  addSheet name := f (.addSheet name)
  sheetName name := f (.sheetName name)
  renameSheet old new := f (.renameSheet old new)
  deleteSheet name := f (.deleteSheet name)
  activateSheet name := f (.activateSheet name)
  addChart kind source title := f (.addChart kind source title)
  charts := f .charts
  deleteChart name := f (.deleteChart name)
  sort place key ascending := f (.sort place key ascending)

@[simp] theorem answer_ofAnswers (f : (r : Request) → Call σ r.Answer) (r : Request) :
    (ofAnswers f).answer r = f r := by
  cases r <;> rfl

/-- Every call comes back, with an answer or with an error, and keeps a condition on the document,
unless it stops everything for one of some causes. -/
def Answers (host : Host σ) (stops : Stop → Prop) (P : σ → Prop) : Prop :=
  ∀ r s, P s → (∀ why, ((host.answer r).run s).1 = .error (.stop why) → stops why) ∧
    P ((host.answer r).run s).2

/-- A call comes back in one of two ways, or stops everything. -/
theorem Answers.run_cases {host : Host σ} {stops : Stop → Prop} {P : σ → Prop}
    (h : host.Answers stops P) (r : Request) {s : σ} (hs : P s) :
    (∃ a s', (host.answer r).run s = (.ok a, s') ∧ P s') ∨
      (∃ e s', (host.answer r).run s = (.error (.error e), s') ∧ P s') ∨
      ∃ why s', (host.answer r).run s = (.error (.stop why), s') ∧ stops why := by
  obtain ⟨hresult, hs'⟩ := h r s hs
  rcases hrun : (host.answer r).run s with ⟨result, s'⟩
  rw [hrun] at hresult hs'
  match result with
  | .ok a => exact Or.inl ⟨a, s', rfl, hs'⟩
  | .error (.error e) => exact Or.inr (Or.inl ⟨e, s', rfl, hs'⟩)
  | .error (.stop why) => exact Or.inr (Or.inr ⟨why, s', rfl, hresult why rfl⟩)

/-- The same document, which also keeps a list of the calls it got, in order. -/
def recorded (host : Host σ) : Host (σ × List Request) :=
  .ofAnswers fun r (s, calls) =>
    let (result, s) := (host.answer r).run s
    (result, s, calls ++ [r])

theorem answer_recorded (host : Host σ) (r : Request) (s : σ) (calls : List Request) :
    (host.recorded.answer r).run (s, calls) =
      (((host.answer r).run s).1, ((host.answer r).run s).2, calls ++ [r]) := by
  rw [recorded, answer_ofAnswers]
  rfl

/-- A call on the document with the list. -/
theorem run_recorded {host : Host σ} (r : Request) {result : Except Failure r.Answer} {s s' : σ}
    (h : (host.answer r).run s = (result, s')) (calls : List Request) :
    (host.recorded.answer r).run (s, calls) = (result, s', calls ++ [r]) := by
  rw [answer_recorded, h]

end Host

namespace Guarded

variable {stops : Stop → Prop} {P : Workbook → Prop}

/-- A call that goes through answers if the workbook does. -/
theorem answers_pass {α : Type} {call : Call Workbook α} {g : Guarded}
    (h : (∀ why, (call.run g.book).1 = .error (.stop why) → stops why) ∧ P (call.run g.book).2) :
    (∀ why, ((pass call).run g).1 = .error (.stop why) → stops why) ∧ P ((pass call).run g).2.book :=
  h

theorem answers_guarded {α : Type} (text : String) {call : Call Workbook α} {g : Guarded}
    (hg : P g.book)
    (h : (∀ why, (call.run g.book).1 = .error (.stop why) → stops why) ∧ P (call.run g.book).2) :
    (∀ why, ((guarded text call).run g).1 = .error (.stop why) → stops why) ∧
      P ((guarded text call).run g).2.book := by
  by_cases hpoison : g.poison = some text
  · have hlost : (guarded text call).run g =
        (.error (.error (.session "connection lost")), g) := if_pos hpoison
    rw [hlost]
    exact ⟨by simp, hg⟩
  · have hpass : (guarded text call).run g = (pass call).run g := if_neg hpoison
    rw [hpass]
    exact answers_pass h

/-- A workbook behind a connection answers if the workbook does. -/
theorem answers (h : Workbook.host.Answers stops P) : host.Answers stops fun g => P g.book := by
  intro r g hg
  have hr := h r g.book hg
  cases r with
  | start =>
    by_cases hread : g.readOnly = true
    · have hrun : (host.answer .start).run g =
          (.error (.error (.session "document is read-only")), g) := if_pos hread
      rw [hrun]
      exact ⟨by simp, hg⟩
    · have hrun : (host.answer .start).run g = (.ok (), g) := if_neg hread
      rw [hrun]
      exact ⟨by simp, hg⟩
  | commit =>
    by_cases hsync : g.unsynced = true
    · have hrun : (host.answer .commit).run g =
          (.error (.error (.session "sync failed")), g) := if_pos hsync
      rw [hrun]
      exact ⟨by simp, hg⟩
    · have hrun : (host.answer .commit).run g = (.ok (), { g with commits := g.commits + 1 }) :=
        if_neg hsync
      rw [hrun]
      exact ⟨by simp, hg⟩
  | setValue _ text | setFormula _ text | setFill _ text | addSheet text =>
    exact answers_guarded text hg hr
  | _ => exact answers_pass hr

end Guarded

end SheetScript
