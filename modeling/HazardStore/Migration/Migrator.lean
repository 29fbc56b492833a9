import HazardStore.Migration.Error
import HazardStore.Migration.History
import HazardStore.Session.Basic
/-!
The migrator. It refuses a history that it does not understand, and applies every known migration
that is not recorded, one after the other, each in a transaction of its own together with its
record.
-/

namespace HazardStore

/-- A recorded version with whether its script is the known one. -/
structure RecordedChecksum where
  version : Int64
  isKnown : Bool
deriving DecidableEq

open Dialogue

def RecordedChecksum.decode : Cells [.bigInteger, .checksum] → Except Fault RecordedChecksum
  | (version, isKnown, ()) => do
      let version ← required (.numbered 0) version
      let isKnown ← required (.numbered 1) isKnown
      return { version, isKnown }

namespace Migration

def decodeVersion : Cells [.bigInteger] → Except Fault Int64 :=
  single

def firstUnknown? (migrations : List Migration) (recorded : List RecordedChecksum) :
    Option RecordedChecksum :=
  recorded.find? (fun checksum =>
    !migrations.any (fun migration => decide (migration.version = checksum.version)))

/-- What is recorded for a version; of several records the last one counts. -/
def recordedFor? (recorded : List RecordedChecksum) (version : Int64) : Option RecordedChecksum :=
  recorded.reverse.find? (fun checksum => decide (checksum.version = version))

/-- The recorded checksums of a history in which every migration is finished and is one of the given
ones. -/
def recordedChecksums (migrations : List Migration) :
    Dialogue MigrationError (List RecordedChecksum) := do
  match ← first? .failedMigration decodeVersion with
  | some version => .fail (.unfinished version)
  | none =>
      let recorded ← all .recordedChecksums RecordedChecksum.decode
      match firstUnknown? migrations recorded with
      | some checksum => .fail (.unknown checksum.version)
      | none => return recorded

def applyWork (migration : Migration) : Dialogue MigrationError (Ending Unit) :=
  .ask (.applyMigration migration) fun
    | .error error => .fail (.refused migration.version (.server error))
    | .ok _ => do
        let _ ← count (.recordMigration migration)
        return .keep ()

/-- Applies the given migrations that are not recorded, in their order, and stops at the first
failure or altered script. -/
def applyAll (recorded : List RecordedChecksum) : List Migration → Session MigrationError Unit
  | [] => return ()
  | migration :: others => do
      match recordedFor? recorded migration.version with
      | some checksum =>
          if checksum.isKnown then applyAll recorded others
          else .fail (.altered migration.version)
      | none =>
          Session.bracket (applyWork migration)
          applyAll recorded others

def migrateAll (migrations : List Migration) : Session MigrationError Unit := do
  let recorded ← recordedChecksums migrations
  applyAll recorded migrations

def notePending : List Migration → Dialogue MigrationError Unit
  | [] => return ()
  | migration :: others => do
      log (.migrationPending migration.version migration.description)
      notePending others

/-- Runs the migrator when something is pending and leaves the server alone otherwise. -/
def migrate : Session MigrationError Unit := do
  let waiting := pending (← (records : Dialogue MigrationError _))
  if waiting.isEmpty then Session.note .schemaUpToDate (.done ())
  else
    notePending waiting
    migrateAll known
    Session.note (.migrationsApplied waiting.length) (.done ())

end Migration

end HazardStore
