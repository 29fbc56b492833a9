import HazardStore.Calendar
import HazardStore.Identifier
import HazardStore.Measure.Basic
/-!
The rows of the store and the requests that create them. Rows are immutable once written, but for
the site indices of a rupture, which are written once.
-/

namespace HazardStore

/-- An intensity measure as stored; the text is not tied to the components. -/
structure MeasureRow where
  id : RecordId
  text : String
  code : String
  period? : Option Double
  damping? : Option Double
deriving DecidableEq

structure ContainerRow where
  id : RecordId
  displayName : String
  createdAt : Instant
deriving DecidableEq

/-- A probabilistic rupture. Without site indices it affects the whole site collection. -/
structure RuptureRow where
  id : RecordId
  magnitude : Double
  rake : Double
  tectonicRegion : String
  fromFaultSource : Bool
  sites? : Option (List SiteId)
  createdAt : Instant
deriving DecidableEq

structure EventRow where
  id : RecordId
  rupture : RecordId
  eventSet : Int32
  tag : String
  seed : Int32
  createdAt : Instant
deriving DecidableEq

structure FieldRow where
  id : RecordId
  event : RecordId
  container : RecordId
  measure : RecordId
  values : List Double
deriving DecidableEq

def MeasureRow.measure (row : MeasureRow) : Except Violation Measure :=
  Measure.ofComponents row.code row.period? row.damping?

structure NewContainer where
  displayName : String
deriving DecidableEq

structure NewRupture where
  magnitude : Double
  rake : Double
  tectonicRegion : String
  /-- Taken as false when it is left out. -/
  fromFaultSource? : Option Bool
  sites? : Option (List SiteId)
deriving DecidableEq

structure NewEvent where
  rupture : RecordId
  eventSet : Int32
  tag : String
  seed : Int32
deriving DecidableEq

structure NewField where
  event : RecordId
  container : RecordId
  measure : RecordId
  values : List Double
deriving DecidableEq

end HazardStore
