import HazardStore.Calendar
import HazardStore.Double.Basic
import HazardStore.Identifier
/-!
The shape of result rows. The columns of a statement have fixed types and every cell may be null, so
a row is a tuple with one optional value per column; the elements of an array may be null as well.
Nothing else can arrive.
-/

namespace HazardStore

inductive ColumnType where
  | bigInteger
  | integer
  | boolean
  | text
  | double
  | integers
  | doubles
  | timestamp
  /-- The checksum of a recorded script, told apart only by whether it is that of the known script.
  -/
  | checksum
deriving DecidableEq

def ColumnType.Value : ColumnType → Type
  | .bigInteger => RecordId
  | .integer => Int32
  | .boolean => Bool
  | .text => String
  | .double => Double
  | .integers => List (Option SiteId)
  | .doubles => List (Option Double)
  | .timestamp => Instant
  | .checksum => Bool

def Cells : List ColumnType → Type
  | [] => Unit
  | column :: columns => Option column.Value × Cells columns

/-- How an error names a column: by its name in rows of a table, by its number from zero elsewhere.
-/
inductive ColumnLabel where
  | named (name : String)
  | numbered (index : Nat)
deriving DecidableEq

end HazardStore
