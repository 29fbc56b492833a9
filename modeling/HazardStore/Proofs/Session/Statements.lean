import HazardStore.Session.Run
/-!
Which statements a session can send, whatever it is answered. The predicate follows the session as a
value, so that it composes with the session; on every run it bounds the trace.
-/

namespace HazardStore

inductive Dialogue.SendsOnly {ε α : Type} (allowed : Statement → Prop) : Dialogue ε α → Prop where
  | done (value : α) : SendsOnly allowed (.done value)
  | fail (error : ε) : SendsOnly allowed (.fail error)
  | ask (statement : Statement) (next : Except ServerError (Reply statement) → Dialogue ε α)
      (here : allowed statement) (later : ∀ reply, SendsOnly allowed (next reply)) :
      SendsOnly allowed (.ask statement next)
  | note (entry : JournalEntry) (next : Dialogue ε α) (later : SendsOnly allowed next) :
      SendsOnly allowed (.note entry next)

namespace Dialogue.SendsOnly

variable {ε α β : Type} {allowed : Statement → Prop}

theorem bind {dialogue : Dialogue ε α} {continuation : α → Dialogue ε β}
    (first : dialogue.SendsOnly allowed) (rest : ∀ value, (continuation value).SendsOnly allowed) :
    (dialogue >>= continuation).SendsOnly allowed := by
  induction first with
  | done value => exact rest value
  | fail error => exact .fail error
  | ask statement next here _ ih => exact .ask statement _ here ih
  | note entry next _ ih => exact .note entry _ ih

variable [OfFault ε]

theorem decoded (outcome : Except Fault α) :
    (Dialogue.decoded outcome : Dialogue ε α).SendsOnly allowed := by
  cases outcome with
  | ok value => exact .done value
  | error fault => exact .fail _

theorem send (statement : Statement) (here : allowed statement) :
    (Dialogue.send statement : Dialogue ε (Reply statement)).SendsOnly allowed := by
  apply SendsOnly.ask statement _ here
  intro reply
  cases reply with
  | ok reply => exact .done reply
  | error error => exact .fail _

theorem first? (statement : Statement) (decode : Dialogue.Decoder statement α)
    (here : allowed statement) :
    (Dialogue.first? statement decode : Dialogue ε (Option α)).SendsOnly allowed := by
  apply bind (send statement here)
  intro reply
  cases reply.rowList.head? with
  | none => exact .done none
  | some row => exact decoded _

theorem first (statement : Statement) (decode : Dialogue.Decoder statement α)
    (here : allowed statement) :
    (Dialogue.first statement decode : Dialogue ε α).SendsOnly allowed := by
  apply bind (first? statement decode here)
  intro value?
  cases value? with
  | none => exact .fail _
  | some value => exact .done value

omit [OfFault ε] in
theorem ofExcept (outcome : Except ε α) : (Dialogue.ofExcept outcome).SendsOnly allowed := by
  cases outcome with
  | ok value => exact .done value
  | error error => exact .fail error

end Dialogue.SendsOnly

inductive Session.SendsOnly {ε α : Type} (allowed : Statement → Prop) : Session ε α → Prop where
  | done (value : α) : SendsOnly allowed (.done value)
  | fail (error : ε) : SendsOnly allowed (.fail error)
  | ask (statement : Statement) (next : Except ServerError (Reply statement) → Session ε α)
      (here : allowed statement) (later : ∀ reply, SendsOnly allowed (next reply)) :
      SendsOnly allowed (.ask statement next)
  | note (entry : JournalEntry) (next : Session ε α) (later : SendsOnly allowed next) :
      SendsOnly allowed (.note entry next)
  | begin (next : Except ServerError Unit → Session ε α)
      (later : ∀ outcome, SendsOnly allowed (next outcome)) : SendsOnly allowed (.begin next)
  | commit (next : Except ServerError Unit → Session ε α)
      (later : ∀ outcome, SendsOnly allowed (next outcome)) : SendsOnly allowed (.commit next)
  | rollback (next : Session ε α) (later : SendsOnly allowed next) :
      SendsOnly allowed (.rollback next)

namespace Session.SendsOnly

variable {ε α : Type} {allowed : Statement → Prop}

theorem ofDialogue {dialogue : Dialogue ε α} (only : dialogue.SendsOnly allowed) :
    (Session.ofDialogue dialogue).SendsOnly allowed := by
  induction only with
  | done value => exact .done value
  | fail error => exact .fail error
  | ask statement next here _ ih => exact .ask statement _ here ih
  | note entry next _ ih => exact .note entry _ ih

section Transactions

variable [OfFault ε]

theorem conclude {work : Dialogue ε (Ending α)} (only : work.SendsOnly allowed) :
    (Session.conclude work).SendsOnly allowed := by
  induction only with
  | done ending =>
      cases ending with
      | keep value =>
          apply SendsOnly.commit
          intro outcome
          cases outcome with
          | ok => exact .done value
          | error error => exact .rollback _ (.fail _)
      | discard value => exact .rollback _ (.done value)
  | fail error => exact .rollback _ (.fail error)
  | ask statement next here _ ih => exact .ask statement _ here ih
  | note entry next _ ih => exact .note entry _ ih

theorem bracket {work : Dialogue ε (Ending α)} (only : work.SendsOnly allowed) :
    (Session.bracket work).SendsOnly allowed := by
  apply SendsOnly.begin
  intro outcome
  cases outcome with
  | ok => exact conclude only
  | error error => exact .fail _

end Transactions

/-- On every run, every statement in the trace is one that the session may send. -/
theorem of_mem_trace {σ : Type} {session : Session ε α} (only : session.SendsOnly allowed)
    (server : Server σ) (state : σ) (statement : Statement)
    (sent : .sent statement ∈ (session.run server state).trace) : allowed statement := by
  induction only generalizing state with
  | done value => cases sent
  | fail error => cases sent
  | ask asked next here _ ih =>
      rcases List.mem_cons.1 sent with now | later
      · cases now
        exact here
      · exact ih _ _ later
  | note entry next _ ih =>
      rcases List.mem_cons.1 sent with now | later
      · cases now
      · exact ih _ later
  | begin next _ ih =>
      rcases List.mem_cons.1 sent with now | later
      · cases now
      · exact ih _ _ later
  | commit next _ ih =>
      rcases List.mem_cons.1 sent with now | later
      · cases now
      · exact ih _ _ later
  | rollback next _ ih =>
      rcases List.mem_cons.1 sent with now | later
      · cases now
      · exact ih _ later

end Session.SendsOnly

end HazardStore
