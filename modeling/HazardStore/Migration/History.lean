import HazardStore.Session.Dialogue
/-!
The history of the schema: what the server recorded about migrations, and what that says about each
known one. A migration is applied when its record says that it succeeded; a record of a failure says
when it was tried.
-/

namespace HazardStore

structure MigrationRecord where
  version : Int64
  description : String
  installedOn : Instant
  success : Bool
deriving DecidableEq

structure MigrationStatus where
  version : Int64
  description : String
  applied : Bool
  installedOn? : Option Instant
deriving DecidableEq

open Dialogue

def MigrationRecord.decode : Cells Statement.historyColumns → Except Fault MigrationRecord
  | (version, description, installedOn, success, ()) => do
      let version ← required (.named "version") version
      let description ← required (.named "description") description
      let installedOn ← required (.named "installed_on") installedOn
      let success ← required (.named "success") success
      return { version, description, installedOn, success }

namespace Migration

def decodeFlag : Cells [.boolean] → Except Fault Bool :=
  single

def isApplied (records : List MigrationRecord) (migration : Migration) : Bool :=
  records.any (fun record => decide (record.version = migration.version) && record.success)

/-- The known migrations that no record reports as a success, in version order. -/
def pending (records : List MigrationRecord) : List Migration :=
  known.filter (fun migration => !isApplied records migration)

/-- The first record of a migration decides its status. -/
def statusOf (records : List MigrationRecord) (migration : Migration) : MigrationStatus :=
  let record? := records.find? (fun record => decide (record.version = migration.version))
  { version := migration.version
    description := migration.description
    applied := record?.any MigrationRecord.success
    installedOn? := record?.map MigrationRecord.installedOn }

variable {ε : Type} [OfFault ε]

/-- The records in version order; a schema that was never migrated has no table for them. -/
def records : Dialogue ε (List MigrationRecord) := do
  if ← first .historyExists decodeFlag then all .history MigrationRecord.decode
  else return []

def status : Dialogue ε (List MigrationStatus) := do
  return known.map (statusOf (← records))

end Migration

end HazardStore
