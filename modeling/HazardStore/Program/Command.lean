import HazardStore.Json.Document
import HazardStore.Migration.Migrator
import HazardStore.Schema.Verification
import HazardStore.Store.Seeding
/-!
The commands of the program. Each is a session whose result is what the command prints; a failure
knows what was printed before it.
-/

namespace HazardStore

inductive Command where
  | run
  | status (json : Bool)
  | seed
  | verify
deriving DecidableEq

inductive CommandFailure where
  | migrating (error : MigrationError)
  | readingStatus (fault : Fault)
  | seeding (fault : Fault)
  | inspecting (fault : Fault)
  | nonconforming (problems : List SchemaProblem)
deriving DecidableEq

namespace CommandFailure

def chain : CommandFailure → List String
  | .migrating error => "Failed to run database migrations" :: error.chain
  | .readingStatus fault => "Failed to read migration status" :: fault.chain
  | .seeding fault => "Failed to seed intensity measure types" :: fault.chain
  | .inspecting fault => "Failed to inspect schema" :: fault.chain
  | .nonconforming problems =>
      ["schema verification found " ++ toString problems.length ++ " problem(s)"]

def printed : CommandFailure → String
  | .nonconforming problems =>
      String.join (problems.map (fun problem => "FAIL " ++ problem.message ++ "\n"))
  | _ => ""

end CommandFailure

namespace MigrationStatus

def state (status : MigrationStatus) : String :=
  match status.installedOn? with
  | none => "pending"
  | some instant => if status.applied then "applied " ++ instant.tableText else "failed"

def filled (width : Nat) (text : String) : String :=
  text ++ String.ofList (List.replicate (width - text.length) ' ')

def line (status : MigrationStatus) : String :=
  filled 16 (toString status.version) ++ " " ++ filled 24 status.state ++ " " ++
    status.description ++ "\n"

def document (status : MigrationStatus) : Json.Document :=
  .record [
    ("version", .number status.version.toInt),
    ("description", .text status.description),
    ("applied", .boolean status.applied),
    ("installed_on", status.installedOn?.elim .null (fun instant => .text instant.interchangeText))]

end MigrationStatus

namespace Command

def statusText (json : Bool) (statuses : List MigrationStatus) : String :=
  if json then (Json.Document.list (statuses.map MigrationStatus.document)).pretty 0 ++ "\n"
  else String.join (statuses.map MigrationStatus.line)

def runSession : Session CommandFailure String :=
  Session.mapError .migrating (do
    Migration.migrate
    return "")

def statusSession (json : Bool) : Session CommandFailure String :=
  Session.mapError .readingStatus (Session.ofDialogue (do
    return statusText json (← Migration.status)))

def seedSession : Session CommandFailure String :=
  Session.mapError .seeding (do
    let inserted ← Seeding.seed
    return toString inserted ++ " intensity measure types inserted\n")

def verdict : List SchemaProblem → Session CommandFailure String
  | [] => return "schema OK\n"
  | problems => .fail (.nonconforming problems)

def verifySession : Session CommandFailure String := do
  let problems ← Session.mapError .inspecting (Session.ofDialogue Schema.verify)
  verdict problems

/-- What a command does; its result is what it prints. -/
def session : Command → Session CommandFailure String
  | .run => runSession
  | .status json => statusSession json
  | .seed => seedSession
  | .verify => verifySession

def printed : Except CommandFailure String → String
  | .ok text => text
  | .error failure => failure.printed

end Command

end HazardStore
