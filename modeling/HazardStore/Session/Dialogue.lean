import HazardStore.Server.Reply
import HazardStore.Session.Journal
/-!
Dialogues with the server: statements sent one after the other, each chosen from the answers before
it, and journal entries between them. A dialogue is a value; it says what will be sent for every
possible answer and does nothing by itself. It has no way to begin or end a transaction.
-/

namespace HazardStore

inductive Dialogue (ε α : Type) where
  | done (value : α)
  | fail (error : ε)
  | ask (statement : Statement) (next : Except ServerError (Reply statement) → Dialogue ε α)
  | note (entry : JournalEntry) (next : Dialogue ε α)

namespace Dialogue

def bind {ε α β : Type} : Dialogue ε α → (α → Dialogue ε β) → Dialogue ε β
  | .done value, continuation => continuation value
  | .fail error, _ => .fail error
  | .ask statement next, continuation =>
      .ask statement (fun reply => (next reply).bind continuation)
  | .note entry next, continuation => .note entry (next.bind continuation)

instance {ε : Type} : Monad (Dialogue ε) where
  pure := done
  bind := bind

def log {ε : Type} (entry : JournalEntry) : Dialogue ε Unit :=
  .note entry (.done ())

def ofExcept {ε α : Type} : Except ε α → Dialogue ε α
  | .ok value => .done value
  | .error error => .fail error

section Answers

variable {ε : Type} [OfFault ε]

/-- The answer to a statement; a refusal ends the dialogue. -/
def send (statement : Statement) : Dialogue ε (Reply statement) :=
  .ask statement fun
    | .ok reply => .done reply
    | .error error => .fail (OfFault.ofFault (.server error))

/-- A reading of rows: either what a row stands for or the first column that should not be null. -/
abbrev Decoder (statement : Statement) (α : Type) :=
  Cells statement.columns → Except Fault α

def decodeAll {α row : Type} (decode : row → Except Fault α) :
    List row → Except Fault (List α)
  | [] => .ok []
  | first :: rest => do
      let value ← decode first
      let values ← decodeAll decode rest
      return value :: values

def decoded {α : Type} : Except Fault α → Dialogue ε α
  | .ok value => .done value
  | .error fault => .fail (OfFault.ofFault fault)

def all {α : Type} (statement : Statement) (decode : Decoder statement α) :
    Dialogue ε (List α) := do
  let reply ← send statement
  decoded (decodeAll decode reply.rowList)

/-- The first row of the answer, if there is one; further rows are not looked at. -/
def first? {α : Type} (statement : Statement) (decode : Decoder statement α) :
    Dialogue ε (Option α) := do
  let reply ← send statement
  match reply.rowList.head? with
  | none => return none
  | some row => decoded ((decode row).map some)

def first {α : Type} (statement : Statement) (decode : Decoder statement α) : Dialogue ε α := do
  match ← first? statement decode with
  | some value => return value
  | none => .fail (OfFault.ofFault .noRow)

def count (statement : Statement) : Dialogue ε Nat := do
  let reply ← send statement
  return reply.rowsAffected

end Answers

def required {α : Type} (column : ColumnLabel) : Option α → Except Fault α
  | some value => .ok value
  | none => .error (.unexpectedNull column)

/-- The elements of an array; a null among them is told by the column of the array. -/
def elements {α : Type} (column : ColumnLabel) : List (Option α) → Except Fault (List α) :=
  decodeAll (required column)

/-- An array that may be null, though its elements may not. -/
def elements? {α : Type} (column : ColumnLabel) :
    Option (List (Option α)) → Except Fault (Option (List α))
  | some values => (elements column values).map some
  | none => .ok none

/-- The only cell of a row. -/
def single {type : ColumnType} : Cells [type] → Except Fault type.Value
  | (value, ()) => required (.numbered 0) value

/-- The only cell of a row, an array that may be null. -/
def integers? : Cells [.integers] → Except Fault (Option (List Int32))
  | (values?, ()) => elements? (.numbered 0) values?

end Dialogue

end HazardStore
