import HazardStore.Server.Reply
/-!
Why the schema could not be migrated.
-/

namespace HazardStore

inductive MigrationError where
  | unfinished (version : Int64)
  | unknown (version : Int64)
  /-- The script of a recorded migration is not the known one. -/
  | altered (version : Int64)
  | refused (version : Int64) (fault : Fault)
  | database (fault : Fault)
deriving DecidableEq

namespace MigrationError

def message : MigrationError → String
  | .unfinished version =>
      "migration " ++ toString version ++
        " is partially applied; fix and remove row from `_sqlx_migrations` table"
  | .unknown version =>
      "migration " ++ toString version ++
        " was previously applied but is missing in the resolved migrations"
  | .altered version =>
      "migration " ++ toString version ++ " was previously applied but has been modified"
  | .refused version fault =>
      "while executing migration " ++ toString version ++ ": " ++ fault.message
  | .database fault => "while executing migrations: " ++ fault.message

def causes : MigrationError → List String
  | .refused _ fault => fault.chain
  | .database fault => fault.chain
  | _ => []

def chain (error : MigrationError) : List String :=
  error.message :: error.causes

instance : OfFault MigrationError where
  ofFault := .database

end MigrationError

end HazardStore
