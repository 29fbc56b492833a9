import HazardStore.Session.Dialogue
import HazardStore.Store.Error
/-!
The table of intensity measures: reading, finding by components or by text, and registration. A
measure is registered at most once; whoever loses a race finds the row of the winner.
-/

namespace HazardStore.Measures

open Dialogue

def decodeRow : Cells Statement.measureColumns → Except Fault MeasureRow
  | (id, text, code, period?, damping?, ()) => do
      let id ← required (.named "id") id
      let text ← required (.named "imt_str") text
      let code ← required (.named "im_type") code
      return { id, text, code, period?, damping? }

section Queries

variable {ε : Type} [OfFault ε]

def list : Dialogue ε (List MeasureRow) :=
  all .listMeasures decodeRow

def byId? (id : RecordId) : Dialogue ε (Option MeasureRow) :=
  first? (.measureById id) decodeRow

/-- The row with the components of a measure, whatever its text. -/
def find? (measure : Measure) : Dialogue ε (Option MeasureRow) :=
  first? (.measureByComponents measure.kind.code measure.period? measure.damping?) decodeRow

end Queries

def findText? (text : String) : Dialogue StoreError (Option MeasureRow) := do
  let measure ← ofExcept ((Measure.ofText text).mapError .invalid)
  find? measure

/-- Inserts the row of a measure, unless one with its text or its components is there. -/
def insert? (measure : Measure) : Dialogue StoreError (Option MeasureRow) :=
  first? (.registerMeasure measure.text measure.kind.code measure.period? measure.damping?)
    decodeRow

/-- After an insertion that changed nothing: another client was faster, or the text is taken. -/
def findAgain (measure : Measure) : Dialogue StoreError MeasureRow := do
  match ← find? measure with
  | some row => return row
  | none => .fail (.conflict (.textTaken measure.text))

/-- The row of a measure, inserted first if it is absent. Rows that are there are never changed. -/
def register (measure : Measure) : Dialogue StoreError MeasureRow := do
  match ← find? measure with
  | some row => return row
  | none =>
      match ← insert? measure with
      | some row =>
          log (.measureRegistered row.id row.text)
          return row
      | none => findAgain measure

end HazardStore.Measures
