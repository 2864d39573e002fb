import SheetScript.Grid.Address
import SheetScript.Grid.Span

/-!
# Failures of a document

A document refuses a call for one of a few kinds of causes, which it words as it likes.

- `HostError`: the causes; `HostError.kind` sorts them and `HostError.message` words them.
- `HostError.sheetNotFound`, `HostError.tooLarge`, …: the causes of a workbook.
- `Failure`: an error, or a `Stop`, after which nothing is called any more.
-/

namespace SheetScript

open Grid

/-- Why a document refuses a call. What was asked for and why it is refused is any text. -/
inductive HostError where
  | notFound (what : String)
  | alreadyExists (what : String)
  | invalidAddress (text : String)
  | rejected (reason : String)
  /-- The session itself failed, so nothing after it can run. -/
  | session (reason : String)
deriving DecidableEq, Repr

/-- The sorts of errors. -/
inductive HostError.Kind where
  | notFound
  | alreadyExists
  | invalidAddress
  | rejected
  | session
deriving DecidableEq, Repr

namespace HostError

/-- The sort of an error. -/
def kind : HostError → Kind
  | notFound _ => .notFound
  | alreadyExists _ => .alreadyExists
  | invalidAddress _ => .invalidAddress
  | rejected _ => .rejected
  | session _ => .session

/-- Whether the session itself failed. -/
def isSession (e : HostError) : Bool :=
  e.kind == .session

/-- The wording of an error. -/
def message : HostError → String
  | notFound what => what ++ " not found"
  | alreadyExists what => what ++ " already exists"
  | invalidAddress text => "invalid address: " ++ text
  | rejected reason => reason
  | session reason => reason

/-! ## What a workbook refuses -/

def sheetNotFound (name : String) : HostError :=
  .notFound ("sheet " ++ name)

def chartNotFound (name : String) : HostError :=
  .notFound ("chart " ++ name)

def sheetExists (name : String) : HostError :=
  .alreadyExists ("sheet " ++ name)

/-- The reference of an address names no block. -/
def badReference (address : Address) : HostError :=
  .invalidAddress address.text

def badAddress (cause : AddressError) : HostError :=
  .invalidAddress cause.message

/-- The block is too large to write. -/
def tooLarge (cells : Nat) : HostError :=
  .rejected ("range of " ++ cells.repr ++ " cells is too large to write")

/-- The direction does not fit the lines. -/
def wrongShift (shift : Shift) (lines : Span) : HostError :=
  .rejected ("cannot shift " ++ shift.name ++ " when changing " ++ lines.text)

/-- The only sheet cannot be deleted. -/
def lastSheet : HostError :=
  .rejected "a workbook must keep at least one sheet"

/-- The column to sort by lies outside the block. -/
def keyOutside (key : Nat) (reference : String) : HostError :=
  .rejected ("sort column " ++ key.repr ++ " is outside " ++ reference)

end HostError

/-- Why nothing can go on. -/
inductive Stop where
  /-- A sheet is needed and the document has none. -/
  | noSheet
  /-- A sort has found its keys to be in no consistent order, and gave up. -/
  | disorder
deriving DecidableEq, Repr

/-- How a call on a document ends without a result. -/
inductive Failure where
  | error (cause : HostError)
  /-- Everything ends with the call. -/
  | stop (why : Stop)
deriving DecidableEq, Repr

end SheetScript
