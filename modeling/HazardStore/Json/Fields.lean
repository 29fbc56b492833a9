import HazardStore.Identifier
import HazardStore.Json.Number
import HazardStore.Json.Skip
/-!
Reading a JSON value into fields of known types. The value is an object, whose unknown keys are
passed over, or the list of the fields in their order. The text is read from left to right and its
first problem decides.
-/

namespace HazardStore.Json

inductive FieldType where
  | text
  | bigInteger
  | integer
  | boolean
  | double
  | integers
  | doubles
  | optional (content : FieldType)

def FieldType.Value : FieldType → Type
  | .text => String
  | .bigInteger => RecordId
  | .integer => Int32
  | .boolean => Bool
  | .double => Double
  | .integers => List SiteId
  | .doubles => List Double
  | .optional content => Option content.Value

structure FieldSpec where
  key : String
  type : FieldType

def Values : List FieldSpec → Type
  | [] => Unit
  | field :: others => field.type.Value × Values others

namespace Reader

/-- Passes judgement on a value of another type than the one asked for. A scalar is read to its end
first, so that a malformed one is reported as such. -/
def mismatch {α : Type} : Reader α := do
  let c ← peekToken
  if c = 'n' then word "null".toList
  else if c = 't' then word "true".toList
  else if c = 'f' then word "false".toList
  else if c = '-' then
    drop
    let _ ← Number.read true
  else if c.isDigit then
    let _ ← Number.read false
  else if c = '"' then
    drop
    let _ ← quoted
  else if c ≠ '[' ∧ c ≠ '\x7b' then throw .malformed
  throw .unsuitable

def text : Reader String := do
  if (← peekToken) = '"' then
    drop
    return String.ofList (← quoted)
  else mismatch

def boolean : Reader Bool := do
  let c ← peekToken
  if c = 't' then
    word "true".toList
    return true
  else if c = 'f' then
    word "false".toList
    return false
  else mismatch

def number : Reader Number := do
  let c ← peekToken
  if c = '-' then
    drop
    Number.read true
  else if c.isDigit then Number.read false
  else mismatch

def double : Reader Double := do
  return (← number).toDouble

def integerWithin (least greatest : Int) : Reader Int := do
  match (← number).toInt? with
  | some value => if least ≤ value ∧ value ≤ greatest then return value else throw .unsuitable
  | none => throw .unsuitable

def bigInteger : Reader Int64 := do
  return Int64.ofInt (← integerWithin Int64.minValue.toInt Int64.maxValue.toInt)

def integer : Reader Int32 := do
  return Int32.ofInt (← integerWithin Int32.minValue.toInt Int32.maxValue.toInt)

def anotherElement (isFirst : Bool) : Reader Bool := do
  let c ← peekToken
  if c = ']' then return false
  else if isFirst then return true
  else if c = ',' then
    drop
    if (← peekToken) = ']' then throw .malformed else return true
  else throw .malformed

/-- The elements of a list that is open; the fuel bounds their number. -/
def elementsFrom {α : Type} (element : Reader α) : Nat → Bool → Reader (List α)
  | 0, _ => throw .ended
  | fuel + 1, isFirst => do
      if ← anotherElement isFirst then
        let first ← element
        let others ← elementsFrom element fuel false
        return first :: others
      else
        drop
        return []

def elements {α : Type} (element : Reader α) : Reader (List α) := do
  if (← peekToken) = '[' then
    drop
    elementsFrom element ((← get).length + 1) true
  else mismatch

def orNull {α : Type} (value : Reader α) : Reader (Option α) := do
  if (← peekToken) = 'n' then
    word "null".toList
    return none
  else return some (← value)

/-! ### Objects -/

def anotherKey (isFirst : Bool) : Reader Bool := do
  let c ← peekToken
  if c = '\x7d' then return false
  else if isFirst then
    if c = '"' then return true else throw .malformed
  else if c = ',' then
    drop
    if (← peekToken) = '"' then return true else throw .malformed
  else throw .malformed

end Reader

namespace FieldType

def read : (type : FieldType) → Reader type.Value
  | .text => Reader.text
  | .bigInteger => Reader.bigInteger
  | .integer => Reader.integer
  | .boolean => Reader.boolean
  | .double => Reader.double
  | .integers => Reader.elements Reader.integer
  | .doubles => Reader.elements Reader.double
  | .optional content => Reader.orNull content.read

def absent : (type : FieldType) → Except ReadError type.Value
  | .optional _ => .ok none
  | _ => .error .unsuitable

end FieldType

/-- What has been read so far: a value or nothing for each field. -/
def Slots : List FieldSpec → Type
  | [] => Unit
  | field :: others => Option field.type.Value × Slots others

namespace Slots

def empty : (fields : List FieldSpec) → Slots fields
  | [] => ()
  | _ :: others => (none, empty others)

/-- Reads what follows a key into the slot of its field. A key may come once; the value of an
unknown key is passed over. -/
def fill : (fields : List FieldSpec) → Slots fields → String → Reader (Slots fields)
  | [], (), _ => do
      Reader.colon
      Reader.skipValue
      return ()
  | field :: others, (slot, slots), key => do
      if key = field.key then
        if slot.isSome then throw .unsuitable
        Reader.colon
        return (some (← field.type.read), slots)
      else return (slot, ← fill others slots key)

def complete : (fields : List FieldSpec) → Slots fields → Except ReadError (Values fields)
  | [], () => .ok ()
  | field :: others, (slot, slots) => do
      let value ← match slot with
        | some value => .ok value
        | none => field.type.absent
      return (value, ← complete others slots)

end Slots

namespace Values

def inOrder : (fields : List FieldSpec) → Bool → Reader (Values fields)
  | [], _ => do
      if (← Reader.peekToken) = ']' then Reader.drop else throw .malformed
  | field :: others, isFirst => do
      if !(← Reader.anotherElement isFirst) then throw .unsuitable
      let value ← field.type.read
      return (value, ← inOrder others false)

/-- The rest of an object; the fuel bounds the number of its keys. -/
def byKey (fields : List FieldSpec) : Nat → Bool → Slots fields → Reader (Values fields)
  | 0, _, _ => throw .ended
  | fuel + 1, isFirst, slots => do
      if ← Reader.anotherKey isFirst then
        Reader.drop
        let key ← Reader.quoted
        byKey fields fuel false (← slots.fill fields (String.ofList key))
      else
        let values ← slots.complete fields
        Reader.drop
        return values

def read (fields : List FieldSpec) : Reader (Values fields) := do
  let c ← Reader.peekToken
  if c = '[' then
    Reader.drop
    inOrder fields true
  else if c = '\x7b' then
    Reader.drop
    byKey fields ((← get).length + 1) true (Slots.empty fields)
  else Reader.mismatch

end Values

end HazardStore.Json
