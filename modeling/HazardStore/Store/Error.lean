import HazardStore.Server.Reply
import HazardStore.Violation
/-!
Failures of the operations that judge their input before it reaches the server.
-/

namespace HazardStore

inductive Conflict where
  /-- Fields were stored while the rupture had no site indices. -/
  | fieldsStored (rupture : RecordId) (count : Int64)
  /-- The text of a measure names a row with other components. -/
  | textTaken (text : String)
deriving DecidableEq

inductive StoreError where
  | invalid (violation : Violation)
  | conflict (cause : Conflict)
  | database (fault : Fault)
deriving DecidableEq

def Conflict.message : Conflict → String
  | .fieldsStored rupture count =>
      "rupture " ++ toString rupture ++ " already has " ++ toString count ++
        " ground motion fields stored without site indices"
  | .textTaken text =>
      "imt_str '" ++ text ++ "' is already used by a different intensity measure type"

def StoreError.message : StoreError → String
  | .invalid violation => violation.message
  | .conflict cause => "Conflict: " ++ cause.message
  | .database fault => "Database error: " ++ fault.message

instance : OfFault StoreError where
  ofFault := .database

end HazardStore
