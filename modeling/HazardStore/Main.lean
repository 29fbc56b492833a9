import HazardStore.Program.Outcome
/-!
The command line program: arguments and environment in, output, complaint and exit code out. What
is said to a server is a session, a value that any transport can carry; none is built in, so the
wait for a connection always ends without one.
-/

namespace HazardStore.Program

/-- What the environment says about the settings. -/
def readEnvironment : IO Settings.Environment := do
  let settings : List Setting := [.databaseUrl, .maxConnections, .acquireTimeout]
  let values ← settings.mapM (fun setting => do
    return (setting.name, ← IO.getEnv setting.name))
  return fun name => (values.lookup name).join

def withoutServer (arguments : List String) (environment : Settings.Environment) : Outcome :=
  match prepare arguments environment with
  | .error outcome => outcome
  | .ok _ => (Failure.connecting .timedOut).outcome

def present (outcome : Outcome) : IO UInt32 := do
  IO.print outcome.output
  IO.eprint outcome.complaint
  return UInt32.ofNat outcome.exitCode

end HazardStore.Program

def main (arguments : List String) : IO UInt32 := do
  let environment ← HazardStore.Program.readEnvironment
  HazardStore.Program.present (HazardStore.Program.withoutServer arguments environment)
