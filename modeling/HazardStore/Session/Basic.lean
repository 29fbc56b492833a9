import HazardStore.Session.Dialogue
/-!
Sessions: dialogues together with the control of transactions. A transaction is opened only by
`bracket`, around a dialogue, so that transactions never nest and every one that was opened ends:
in a commit when the dialogue asks to keep what it did, and in a rollback in every other case, a
refused commit included.
-/

namespace HazardStore

inductive Session (ε α : Type) where
  | done (value : α)
  | fail (error : ε)
  | ask (statement : Statement) (next : Except ServerError (Reply statement) → Session ε α)
  | note (entry : JournalEntry) (next : Session ε α)
  | begin (next : Except ServerError Unit → Session ε α)
  | commit (next : Except ServerError Unit → Session ε α)
  | rollback (next : Session ε α)

/-- How the work of a transaction ends when it does not fail. -/
inductive Ending (α : Type) where
  | keep (value : α)
  | discard (value : α)

namespace Session

def bind {ε α β : Type} : Session ε α → (α → Session ε β) → Session ε β
  | .done value, continuation => continuation value
  | .fail error, _ => .fail error
  | .ask statement next, continuation =>
      .ask statement (fun reply => (next reply).bind continuation)
  | .note entry next, continuation => .note entry (next.bind continuation)
  | .begin next, continuation => .begin (fun outcome => (next outcome).bind continuation)
  | .commit next, continuation => .commit (fun outcome => (next outcome).bind continuation)
  | .rollback next, continuation => .rollback (next.bind continuation)

instance {ε : Type} : Monad (Session ε) where
  pure := done
  bind := bind

def ofDialogue {ε α : Type} : Dialogue ε α → Session ε α
  | .done value => .done value
  | .fail error => .fail error
  | .ask statement next => .ask statement (fun reply => ofDialogue (next reply))
  | .note entry next => .note entry (ofDialogue next)

instance {ε : Type} : MonadLift (Dialogue ε) (Session ε) where
  monadLift := ofDialogue

def mapError {ε δ α : Type} (wrap : ε → δ) : Session ε α → Session δ α
  | .done value => .done value
  | .fail error => .fail (wrap error)
  | .ask statement next => .ask statement (fun reply => mapError wrap (next reply))
  | .note entry next => .note entry (mapError wrap next)
  | .begin next => .begin (fun outcome => mapError wrap (next outcome))
  | .commit next => .commit (fun outcome => mapError wrap (next outcome))
  | .rollback next => .rollback (mapError wrap next)

section Transactions

variable {ε : Type} [OfFault ε] {α : Type}

/-- A dialogue that runs inside an open transaction, followed by the end of that transaction. -/
def conclude : Dialogue ε (Ending α) → Session ε α
  | .done (.keep value) => .commit fun
      | .ok () => .done value
      | .error error => .rollback (.fail (OfFault.ofFault (.server error)))
  | .done (.discard value) => .rollback (.done value)
  | .fail error => .rollback (.fail error)
  | .ask statement next => .ask statement (fun reply => conclude (next reply))
  | .note entry next => .note entry (conclude next)

/-- A dialogue inside a transaction of its own. A transaction that the server does not open has no
end. -/
def bracket (work : Dialogue ε (Ending α)) : Session ε α :=
  .begin fun
    | .ok () => conclude work
    | .error error => .fail (OfFault.ofFault (.server error))

end Transactions

end Session

end HazardStore
