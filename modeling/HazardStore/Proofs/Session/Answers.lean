import HazardStore.Proofs.Session.Runs
import Mathlib.Logic.Function.Basic
/-!
Dialogues that ask nothing twice. What a server says to such a dialogue, in whatever order and from
whatever state, is one answer for each statement. The run of the dialogue is then its run against a
server that does nothing but give these answers, where no state has to be followed.
-/

namespace HazardStore

namespace Dialogue

protected theorem bind_pure {ε α : Type} (dialogue : Dialogue ε α) :
    dialogue.bind pure = dialogue := by
  induction dialogue with
  | done value => rfl
  | fail error => rfl
  | ask statement next ih => exact congrArg (Dialogue.ask statement) (funext ih)
  | note entry next ih => exact congrArg (Dialogue.note entry) ih

protected theorem bind_assoc {ε α β γ : Type} (dialogue : Dialogue ε α) (second : α → Dialogue ε β)
    (third : β → Dialogue ε γ) :
    (dialogue.bind second).bind third = dialogue.bind (fun value => (second value).bind third) := by
  induction dialogue with
  | done value => rfl
  | fail error => rfl
  | ask statement next ih => exact congrArg (Dialogue.ask statement) (funext ih)
  | note entry next ih => exact congrArg (Dialogue.note entry) ih

instance {ε : Type} : LawfulMonad (Dialogue ε) :=
  LawfulMonad.mk' (Dialogue ε) Dialogue.bind_pure (fun _ _ => rfl) Dialogue.bind_assoc

end Dialogue

abbrev Answers := (statement : Statement) → Except ServerError (Reply statement)

namespace Answers

def update (answers : Answers) (statement : Statement)
    (reply : Except ServerError (Reply statement)) : Answers :=
  Function.update answers statement reply

end Answers

def Server.settled (answers : Answers) : Server Unit where
  answer statement _ := (answers statement, ())
  begin _ := (.ok (), ())
  commit _ := (.ok (), ())
  rollback _ := ()

namespace Dialogue

variable {σ ε α β : Type}

/-- What the server says to the dialogue, from a state on, are the answers. -/
def Hears (answers : Answers) (server : Server σ) : Dialogue ε α → σ → Prop
  | .done _, _ => True
  | .fail _, _ => True
  | .ask statement next, state =>
      (server.answer statement state).1 = answers statement ∧
        (next (answers statement)).Hears answers server (server.answer statement state).2
  | .note _ next, state => next.Hears answers server state

theorem hears_settled (answers : Answers) (dialogue : Dialogue ε α) :
    dialogue.Hears answers (.settled answers) () := by
  induction dialogue with
  | done value => trivial
  | fail error => trivial
  | ask statement next ih => exact ⟨rfl, ih (answers statement)⟩
  | note entry next ih => exact ih

/-- A dialogue goes as it would against a server that just gives the answers it hears. -/
theorem Hears.run {answers : Answers} {server : Server σ} {dialogue : Dialogue ε α} {state : σ}
    (heard : dialogue.Hears answers server state) :
    ((Session.ofDialogue dialogue).run server state).result =
        ((Session.ofDialogue dialogue).run (.settled answers) ()).result ∧
      ((Session.ofDialogue dialogue).run server state).trace =
        ((Session.ofDialogue dialogue).run (.settled answers) ()).trace := by
  induction dialogue generalizing state with
  | done value => exact ⟨rfl, rfl⟩
  | fail error => exact ⟨rfl, rfl⟩
  | ask statement next ih =>
      obtain ⟨now, later⟩ := heard
      obtain ⟨result, trace⟩ := ih _ later
      simp only [Session.ofDialogue, Session.run_ask, Run.after, now]
      exact ⟨result, congrArg _ trace⟩
  | note entry next ih =>
      obtain ⟨result, trace⟩ := ih heard
      exact ⟨result, congrArg (Event.noted entry :: ·) trace⟩

/-- The dialogue asks no statement twice, and none of those that were asked before. -/
def AsksOnce : List Statement → Dialogue ε α → Prop
  | _, .done _ => True
  | _, .fail _ => True
  | asked, .ask statement next =>
      statement ∉ asked ∧ ∀ reply, (next reply).AsksOnce (statement :: asked)
  | asked, .note _ next => next.AsksOnce asked

theorem AsksOnce.hears_of_agree {asked : List Statement} {dialogue : Dialogue ε α}
    (once : dialogue.AsksOnce asked) (server : Server σ) (state : σ) (before : Answers) :
    ∃ answers : Answers, (∀ statement ∈ asked, answers statement = before statement) ∧
      dialogue.Hears answers server state := by
  induction dialogue generalizing asked state before with
  | done value => exact ⟨before, fun _ _ => rfl, trivial⟩
  | fail error => exact ⟨before, fun _ _ => rfl, trivial⟩
  | ask statement next ih =>
      obtain ⟨new, later⟩ := once
      obtain ⟨answers, agree, heard⟩ := ih _ (later (server.answer statement state).1)
        (server.answer statement state).2
        (before.update statement (server.answer statement state).1)
      have here : answers statement = (server.answer statement state).1 := by
        rw [agree statement (List.mem_cons_self ..)]
        exact Function.update_self ..
      refine ⟨answers, ?_, here.symm, ?_⟩
      · intro earlier member
        have other : earlier ≠ statement := fun same => new (same ▸ member)
        rw [agree earlier (List.mem_cons_of_mem _ member)]
        exact Function.update_of_ne other ..
      · rw [here]
        exact heard
  | note entry next ih => exact ih once state before

theorem AsksOnce.hears {dialogue : Dialogue ε α} (once : dialogue.AsksOnce []) (server : Server σ)
    (state : σ) : ∃ answers : Answers, dialogue.Hears answers server state := by
  obtain ⟨answers, _, heard⟩ := once.hears_of_agree server state (fun _ => .ok (.rows []))
  exact ⟨answers, heard⟩

theorem AsksOnce.of_subset {asked others : List Statement} {dialogue : Dialogue ε α}
    (once : dialogue.AsksOnce asked) (fewer : others ⊆ asked) : dialogue.AsksOnce others := by
  induction dialogue generalizing asked others with
  | done value => trivial
  | fail error => trivial
  | ask statement next ih =>
      obtain ⟨new, later⟩ := once
      exact ⟨fun member => new (fewer member),
        fun reply => ih reply (later reply) (List.cons_subset_cons statement fewer)⟩
  | note entry next ih => exact ih once fewer

end Dialogue

namespace Answers

variable {α : Type} (answers : Answers) (statement : Statement)

/-! What the answer to a statement reads. -/

def first (decode : Dialogue.Decoder statement α) : Except Fault α :=
  Dialogue.firstOf decode (answers statement)

def first? (decode : Dialogue.Decoder statement α) : Except Fault (Option α) :=
  Dialogue.firstOf? decode (answers statement)

def all (decode : Dialogue.Decoder statement α) : Except Fault (List α) :=
  Dialogue.allOf decode (answers statement)

end Answers

end HazardStore
