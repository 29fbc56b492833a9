import HazardStore.Identifier
/-!
Journal entries: what the store notes about its own work while a session runs.
-/

namespace HazardStore

inductive Severity where
  | debug
  | info
  | warning
deriving DecidableEq

inductive JournalEntry where
  | schemaUpToDate
  | migrationPending (version : Int64) (description : String)
  | migrationsApplied (count : Nat)
  | measuresSeeded (inserted total : Nat)
  | measureRegistered (id : RecordId) (text : String)
  | schemaVerified
  | schemaRejected (problems : Nat)
  | noValuesAtSite (container measure : RecordId) (site : SiteId)
deriving DecidableEq

inductive JournalValue where
  | number (value : Int)
  | text (value : String)
deriving DecidableEq

namespace JournalEntry

def severity : JournalEntry → Severity
  | .measureRegistered _ _ => .debug
  | .schemaRejected _ => .warning
  | .noValuesAtSite _ _ _ => .warning
  | _ => .info

def message : JournalEntry → String
  | .schemaUpToDate => "Database schema is up to date"
  | .migrationPending _ _ => "Pending migration"
  | .migrationsApplied _ => "Database migrations applied"
  | .measuresSeeded _ _ => "Seeded intensity measure types"
  | .measureRegistered _ _ => "Registered intensity measure type"
  | .schemaVerified => "Schema verification passed"
  | .schemaRejected _ => "Schema verification failed"
  | .noValuesAtSite _ _ _ => "No ground motion values for site"

def fields : JournalEntry → List (String × JournalValue)
  | .schemaUpToDate => []
  | .migrationPending version description =>
      [("version", .number version.toInt), ("description", .text description)]
  | .migrationsApplied count => [("applied", .number count)]
  | .measuresSeeded inserted total => [("inserted", .number inserted), ("total", .number total)]
  | .measureRegistered id text => [("id", .number id.toInt), ("imt", .text text)]
  | .schemaVerified => []
  | .schemaRejected problems => [("problems", .number problems)]
  | .noValuesAtSite container measure site =>
      [("gmf_id", .number container.toInt), ("imt_id", .number measure.toInt),
        ("site", .number site.toInt)]

end JournalEntry

end HazardStore
