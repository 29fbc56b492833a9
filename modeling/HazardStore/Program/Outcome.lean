import HazardStore.CommandLine.Help
import HazardStore.Program.Connection
import HazardStore.Store.Health
/-!
The program as a whole: arguments, settings, connection, health check, command, in this order, and
what the first failure leaves on the standard error.
-/

namespace HazardStore.Program

structure Outcome where
  exitCode : Nat
  output : String
  complaint : String
deriving DecidableEq

inductive Failure where
  | settings (error : SettingsError)
  | connecting (fault : ConnectionFault)
  | unhealthy (fault : Fault)
  | command (failure : CommandFailure)
deriving DecidableEq

def Failure.chain : Failure → List String
  | .settings error => [error.message]
  | .connecting fault => "Failed to connect to database" :: fault.chain
  | .unhealthy fault => "Database health check failed" :: fault.chain
  | .command failure => failure.chain

def Failure.printed : Failure → String
  | .command failure => failure.printed
  | _ => ""

def indented (margin : String) (text : String) : String :=
  String.ofList (text.toList.flatMap (fun c => if c = '\n' then '\n' :: margin.toList else [c]))

def numberedCause (index : Nat) (cause : String) : String :=
  let number := toString index
  String.ofList (List.replicate (5 - number.length) ' ') ++ number ++ ": " ++
    indented "       " cause ++ "\n"

def causesText : List String → String
  | [] => ""
  | [cause] => "\nCaused by:\n    " ++ indented "    " cause ++ "\n"
  | causes =>
      "\nCaused by:\n" ++ String.join (causes.mapIdx numberedCause)

/-- The failure, then its causes; several causes are numbered from zero. -/
def complaintOf : List String → String
  | [] => ""
  | failure :: causes => "Error: " ++ failure ++ "\n" ++ causesText causes

def Failure.outcome (failure : Failure) : Outcome :=
  { exitCode := 1
    output := failure.printed
    complaint := complaintOf failure.chain }

/-- Everything that is decided before the server is asked: the command and the settings to carry it
out with. Without a named command the migrations are run. -/
def prepare (arguments : List String) (environment : Settings.Environment) :
    Except Outcome (Command × Settings) := do
  let command ← (CommandLine.read arguments).mapError (fun stop =>
    { exitCode := stop.exitCode, output := stop.printed, complaint := stop.complaint })
  let settings ← (Settings.ofEnvironment environment).mapError (fun error =>
    (Failure.settings error).outcome)
  settings.connectable.mapError (fun fault => (Failure.connecting fault).outcome)
  return (command.getD .run, settings)

def session (command : Command) : Session Failure String := do
  Session.mapError .unhealthy (Session.ofDialogue Store.healthCheck)
  Session.mapError .command command.session

def outcomeOf : Except Failure String → Outcome
  | .ok output => { exitCode := 0, output, complaint := "" }
  | .error failure => failure.outcome

end HazardStore.Program
