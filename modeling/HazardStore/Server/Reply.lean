import HazardStore.Server.Statement
/-!
What the server answers to a statement, and what can go wrong with an answer.
-/

namespace HazardStore

/-- An answer to a statement: result rows, or how many rows it affected. -/
inductive Reply (statement : Statement) where
  | rows (answered : List (Cells statement.columns))
  | affected (count : Nat)

namespace Reply

/-- The result rows; a bare count brings none. -/
def rowList {statement : Statement} : Reply statement → List (Cells statement.columns)
  | .rows answered => answered
  | .affected _ => []

/-- How many rows a statement touched; result rows count as touched. -/
def rowsAffected {statement : Statement} : Reply statement → Nat
  | .rows answered => answered.length
  | .affected count => count

end Reply

structure ServerError where
  code : String
  message : String
deriving DecidableEq

inductive Fault where
  | server (error : ServerError)
  | noRow
  | unexpectedNull (column : ColumnLabel)
deriving DecidableEq

namespace Fault

def columnText : ColumnLabel → String
  | .named name => "\"" ++ name ++ "\""
  | .numbered index => toString index

def nullText : String :=
  "unexpected null; try decoding as an `Option`"

def message : Fault → String
  | .server error => "error returned from database: " ++ error.message
  | .noRow => "no rows returned by a query that expected to return at least one row"
  | .unexpectedNull column =>
      "error occurred while decoding column " ++ columnText column ++ ": " ++ nullText

def causes : Fault → List String
  | .server error => [error.message]
  | .noRow => []
  | .unexpectedNull _ => [nullText]

def chain (fault : Fault) : List String :=
  fault.message :: fault.causes

end Fault

/-- Error types that have a place for a fault of the exchange itself. -/
class OfFault (ε : Type) where
  ofFault : Fault → ε

instance : OfFault Fault where
  ofFault := id

end HazardStore
