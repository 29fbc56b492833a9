import HazardStore.Session.Basic
/-!
Running a session against a server. A server is any rule that answers statements and transaction
control while its own state moves on. A run gives the result of the session, the state in which it
leaves the server, and the trace of everything that was sent and noted, in order.
-/

namespace HazardStore

inductive Event where
  | sent (statement : Statement)
  | noted (entry : JournalEntry)
  | began (opened : Bool)
  | committed (accepted : Bool)
  | rolledBack
deriving DecidableEq

structure Server (σ : Type) where
  answer : (statement : Statement) → σ → Except ServerError (Reply statement) × σ
  begin : σ → Except ServerError Unit × σ
  commit : σ → Except ServerError Unit × σ
  rollback : σ → σ

structure Run (σ ε α : Type) where
  result : Except ε α
  state : σ
  trace : List Event

namespace Run

def after {σ ε α : Type} (event : Event) (run : Run σ ε α) : Run σ ε α :=
  { run with trace := event :: run.trace }

end Run

def accepted {ε α : Type} : Except ε α → Bool
  | .ok _ => true
  | .error _ => false

def Session.run {σ ε α : Type} (server : Server σ) : Session ε α → σ → Run σ ε α
  | .done value, state => ⟨.ok value, state, []⟩
  | .fail error, state => ⟨.error error, state, []⟩
  | .ask statement next, state =>
      let (reply, state) := server.answer statement state
      ((next reply).run server state).after (.sent statement)
  | .note entry next, state => (next.run server state).after (.noted entry)
  | .begin next, state =>
      let (outcome, state) := server.begin state
      ((next outcome).run server state).after (.began (accepted outcome))
  | .commit next, state =>
      let (outcome, state) := server.commit state
      ((next outcome).run server state).after (.committed (accepted outcome))
  | .rollback next, state => (next.run server (server.rollback state)).after .rolledBack

end HazardStore
