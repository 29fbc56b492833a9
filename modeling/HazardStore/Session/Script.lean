import HazardStore.Session.Run
/-!
Scripted servers. A script lists, for one statement after the other, how the server answers it; when
it is used up every statement is refused. Beginning and committing transactions succeeds unless the
script refuses it, each time. The record of a migration that was just applied is always accepted and
takes no entry.
-/

namespace HazardStore

/-- One scripted answer: what is said to the statement that happens to come. -/
abbrev ScriptEntry := (statement : Statement) → Except ServerError (Reply statement)

structure Refusals where
  begin? : Option ServerError
  commit? : Option ServerError
deriving DecidableEq

namespace Refusals

def outcome : Option ServerError → Except ServerError Unit
  | none => .ok ()
  | some error => .error error

end Refusals

namespace Server

def exhausted : ServerError :=
  ⟨"XX000", "script exhausted"⟩

def scriptedAnswer (statement : Statement) (script : List ScriptEntry) :
    Except ServerError (Reply statement) × List ScriptEntry :=
  match statement, script with
  | .recordMigration _, script => (.ok (.affected 1), script)
  | _, [] => (.error exhausted, [])
  | _, entry :: rest => (entry _, rest)

/-- The server whose state is what is left of its script. -/
def scripted (refusals : Refusals) : Server (List ScriptEntry) where
  answer := scriptedAnswer
  begin script := (Refusals.outcome refusals.begin?, script)
  commit script := (Refusals.outcome refusals.commit?, script)
  rollback script := script

end Server

end HazardStore
