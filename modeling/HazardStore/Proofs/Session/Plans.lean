import HazardStore.Proofs.Session.Runs
/-!
The texts that a session sends. A plan fixes a text for every step of a session, the steps being the
statements it sends, counted from zero. A session that follows a plan brings nothing of its own into a
text: on every run the texts are worded by the plan from the moves of the run, and what else the
session has to tell the server is left to the parameters.
-/

namespace HazardStore

structure Message where
  text : String
  parameters : List Parameter
deriving DecidableEq

/-- What a run does with one message and how the server takes it, whatever the message says. -/
inductive Move where
  | question
  | opening (opened : Bool)
  | keeping (accepted : Bool)
  | undoing
deriving DecidableEq

def Move.control? : Move → Option String
  | .question => none
  | .opening _ => some "BEGIN"
  | .keeping _ => some "COMMIT"
  | .undoing => some "ROLLBACK"

namespace Event

def message? : Event → Option Message
  | .sent statement => some ⟨statement.text, statement.parameters⟩
  | .noted _ => none
  | .began _ => some ⟨"BEGIN", []⟩
  | .committed _ => some ⟨"COMMIT", []⟩
  | .rolledBack => some ⟨"ROLLBACK", []⟩

def move? : Event → Option Move
  | .sent _ => some .question
  | .noted _ => none
  | .began opened => some (.opening opened)
  | .committed accepted => some (.keeping accepted)
  | .rolledBack => some .undoing

def statement? : Event → Option Statement
  | .sent statement => some statement
  | _ => none

end Event

def messages (trace : List Event) : List Message :=
  trace.filterMap Event.message?

def moves (trace : List Event) : List Move :=
  trace.filterMap Event.move?

def asked (trace : List Event) : List Statement :=
  trace.filterMap Event.statement?

abbrev Plan := Nat → String

namespace Plan

/-- The texts of a run that stands at a step of its plan, from its moves. -/
def wording (plan : Plan) : Nat → List Move → List String
  | _, [] => []
  | step, move :: others =>
      match move.control? with
      | none => plan step :: plan.wording (step + 1) others
      | some text => text :: plan.wording step others

theorem mem_wording {plan : Plan} {step : Nat} {moves : List Move} {text : String}
    (member : text ∈ plan.wording step moves) :
    (∃ now, text = plan now) ∨ ∃ move ∈ moves, move.control? = some text := by
  induction moves generalizing step with
  | nil => cases member
  | cons move others ih =>
      have later {now : Nat} (there : text ∈ plan.wording now others) :
          (∃ now, text = plan now) ∨ ∃ one ∈ move :: others, one.control? = some text := by
        rcases ih there with planned | ⟨one, place, controls⟩
        · exact Or.inl planned
        · exact Or.inr ⟨one, List.mem_cons_of_mem _ place, controls⟩
      cases control : move.control? with
      | none =>
          simp only [wording, control, List.mem_cons] at member
          rcases member with here | there
          · exact Or.inl ⟨step, here⟩
          · exact later there
      | some word =>
          simp only [wording, control, List.mem_cons] at member
          rcases member with rfl | there
          · exact Or.inr ⟨move, List.mem_cons_self .., control⟩
          · exact later there

end Plan

/-- From a step on, every statement has the text of its step, whatever the answers; a dialogue that
succeeds stands at a step where it may end. -/
def Dialogue.Follows {ε α : Type} (plan : Plan) (ends : Nat → Prop) : Dialogue ε α → Nat → Prop
  | .done _, step => ends step
  | .fail _, _ => True
  | .ask statement next, step =>
      statement.text = plan step ∧ ∀ reply, (next reply).Follows plan ends (step + 1)
  | .note _ next, step => next.Follows plan ends step

namespace Dialogue.Follows

variable {ε α β : Type} {plan : Plan} {ends : Nat → Prop} {step : Nat}

theorem bind {middle : Nat → Prop} {dialogue : Dialogue ε α} {continuation : α → Dialogue ε β}
    (first : dialogue.Follows plan middle step)
    (rest : ∀ value now, middle now → (continuation value).Follows plan ends now) :
    (dialogue >>= continuation).Follows plan ends step := by
  change (dialogue.bind continuation).Follows plan ends step
  induction dialogue generalizing step with
  | done value => exact rest value step first
  | fail error => trivial
  | ask statement next ih => exact ⟨first.1, fun reply => ih reply (first.2 reply)⟩
  | note entry next ih => exact ih first

/-- A dialogue that can end at one step only is continued from there. -/
theorem bind_at {now : Nat} {dialogue : Dialogue ε α} {continuation : α → Dialogue ε β}
    (first : dialogue.Follows plan (· = now) step)
    (rest : ∀ value, (continuation value).Follows plan ends now) :
    (dialogue >>= continuation).Follows plan ends step := by
  apply bind first
  intro value _ same
  rw [same]
  exact rest value

theorem ofExcept (outcome : Except ε α) (last : ends step) :
    (Dialogue.ofExcept outcome).Follows plan ends step := by
  cases outcome with
  | ok value => exact last
  | error error => trivial

section Answers

variable [OfFault ε] {statement : Statement}

theorem decoded (outcome : Except Fault α) (last : ends step) :
    (Dialogue.decoded outcome : Dialogue ε α).Follows plan ends step := by
  cases outcome with
  | ok value => exact last
  | error fault => trivial

theorem send (here : statement.text = plan step) (last : ends (step + 1)) :
    (Dialogue.send statement : Dialogue ε _).Follows plan ends step := by
  refine ⟨here, fun reply => ?_⟩
  cases reply with
  | ok reply => exact last
  | error error => trivial

theorem all (decode : Decoder statement α) (here : statement.text = plan step)
    (last : ends (step + 1)) :
    (Dialogue.all statement decode : Dialogue ε _).Follows plan ends step := by
  rw [all_eq]
  exact ⟨here, fun reply => decoded _ last⟩

theorem first? (decode : Decoder statement α) (here : statement.text = plan step)
    (last : ends (step + 1)) :
    (Dialogue.first? statement decode : Dialogue ε _).Follows plan ends step := by
  rw [first?_eq]
  exact ⟨here, fun reply => decoded _ last⟩

theorem first (decode : Decoder statement α) (here : statement.text = plan step)
    (last : ends (step + 1)) :
    (Dialogue.first statement decode : Dialogue ε _).Follows plan ends step := by
  rw [first_eq]
  exact ⟨here, fun reply => decoded _ last⟩

theorem count (here : statement.text = plan step) (last : ends (step + 1)) :
    (Dialogue.count statement : Dialogue ε Nat).Follows plan ends step :=
  bind_at (send here rfl) (fun _ => last)

end Answers

end Dialogue.Follows

def Session.Follows {ε α : Type} (plan : Plan) : Session ε α → Nat → Prop
  | .done _, _ => True
  | .fail _, _ => True
  | .ask statement next, step =>
      statement.text = plan step ∧ ∀ reply, (next reply).Follows plan (step + 1)
  | .note _ next, step => next.Follows plan step
  | .begin next, step => ∀ outcome, (next outcome).Follows plan step
  | .commit next, step => ∀ outcome, (next outcome).Follows plan step
  | .rollback next, step => next.Follows plan step

namespace Session.Follows

variable {ε α β : Type} {plan : Plan} {step : Nat}

theorem ofDialogue {dialogue : Dialogue ε α}
    (follows : dialogue.Follows plan (fun _ => True) step) :
    (Session.ofDialogue dialogue).Follows plan step := by
  induction dialogue generalizing step with
  | done value => trivial
  | fail error => trivial
  | ask statement next ih => exact ⟨follows.1, fun reply => ih reply (follows.2 reply)⟩
  | note entry next ih => exact ih follows

theorem bind {session : Session ε α} {continuation : α → Session ε β}
    (first : session.Follows plan step)
    (rest : ∀ value now, (continuation value).Follows plan now) :
    (session >>= continuation).Follows plan step := by
  change (session.bind continuation).Follows plan step
  induction session generalizing step with
  | done value => exact rest value step
  | fail error => trivial
  | ask statement next ih => exact ⟨first.1, fun reply => ih reply (first.2 reply)⟩
  | note entry next ih => exact ih first
  | begin next ih => exact fun outcome => ih outcome (first outcome)
  | commit next ih => exact fun outcome => ih outcome (first outcome)
  | rollback next ih => exact ih first

section Transactions

variable [OfFault ε]

theorem conclude {work : Dialogue ε (Ending α)}
    (follows : work.Follows plan (fun _ => True) step) :
    (Session.conclude work).Follows plan step := by
  induction work generalizing step with
  | done ending =>
      cases ending with
      | keep value =>
          intro outcome
          cases outcome <;> trivial
      | discard value => trivial
  | fail error => trivial
  | ask statement next ih => exact ⟨follows.1, fun reply => ih reply (follows.2 reply)⟩
  | note entry next ih => exact ih follows

theorem bracket {work : Dialogue ε (Ending α)}
    (follows : work.Follows plan (fun _ => True) step) :
    (Session.bracket work).Follows plan step := by
  intro outcome
  cases outcome with
  | ok => exact conclude follows
  | error error => trivial

end Transactions

variable {σ : Type} {session : Session ε α}

/-- On every run the texts are worded by the plan, from nothing but the moves. -/
theorem texts_eq (follows : session.Follows plan step) (server : Server σ) (state : σ) :
    (messages (session.run server state).trace).map Message.text =
      plan.wording step (moves (session.run server state).trace) := by
  induction session generalizing step state with
  | done value => rfl
  | fail error => rfl
  | ask statement next ih =>
      exact congr (congrArg List.cons follows.1)
        (ih _ (follows.2 _) (server.answer statement state).2)
  | note entry next ih => exact ih follows state
  | begin next ih => exact congrArg ("BEGIN" :: ·) (ih _ (follows _) (server.begin state).2)
  | commit next ih => exact congrArg ("COMMIT" :: ·) (ih _ (follows _) (server.commit state).2)
  | rollback next ih => exact congrArg ("ROLLBACK" :: ·) (ih follows (server.rollback state))

theorem text_of_message (follows : session.Follows plan step) (server : Server σ) (state : σ)
    (message : Message) (sent : message ∈ messages (session.run server state).trace) :
    (∃ now, message.text = plan now) ∨
      ∃ move ∈ moves (session.run server state).trace, move.control? = some message.text := by
  apply Plan.mem_wording
  rw [← follows.texts_eq server state]
  exact List.mem_map_of_mem sent

theorem text_of_asked (follows : session.Follows plan step) (server : Server σ) (state : σ)
    (index : Nat) (statement : Statement)
    (sent : (asked (session.run server state).trace)[index]? = some statement) :
    statement.text = plan (step + index) := by
  induction session generalizing step state index with
  | done value => cases sent
  | fail error => cases sent
  | ask first next ih =>
      cases index with
      | zero =>
          cases sent
          exact follows.1
      | succ index =>
          have later := ih _ (follows.2 _) (server.answer first state).2 index sent
          rw [later, Nat.add_right_comm, Nat.add_assoc]
  | note entry next ih => exact ih follows state index sent
  | begin next ih => exact ih _ (follows _) (server.begin state).2 index sent
  | commit next ih => exact ih _ (follows _) (server.commit state).2 index sent
  | rollback next ih => exact ih follows (server.rollback state) index sent

end Session.Follows

theorem Session.moves_ofDialogue {σ ε α : Type} (dialogue : Dialogue ε α) (server : Server σ)
    (state : σ) : ∀ move ∈ moves ((ofDialogue dialogue).run server state).trace,
      move = .question := by
  induction dialogue generalizing state with
  | done value => exact nofun
  | fail error => exact nofun
  | ask statement next ih =>
      intro move member
      rcases List.mem_cons.1 member with here | later
      · exact here
      · exact ih _ _ move later
  | note entry next ih => exact ih state

end HazardStore
