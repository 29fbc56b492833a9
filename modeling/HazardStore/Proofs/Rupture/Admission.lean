import HazardStore.Proofs.GroundMotion.Field
import HazardStore.Proofs.Session.Transactions
import HazardStore.Session.Script
import HazardStore.Store.Fields
/-!
The decision to store a field. The sites of the rupture are asked for first, and the field is stored
only when it fits what was answered; an event rupture that is not there and one whose rupture lists no
sites are taken alike. A field that does not fit costs one question, and a rupture that lists no site
at all gets no field.
-/

namespace HazardStore.Fields

open GroundMotion

/-- What is read from the answers to the requests of one call. The sites are read from the first row,
if there is one, and may be null there; the row that was stored has to be there. -/
structure Answers where
  begun : Except ServerError Unit
  held : Except Fault (Option (Option (List SiteId)))
  stored : Except Fault FieldRow
  committed : Except ServerError Unit

def answers {σ : Type} (server : Server σ) (request : NewField) (state : σ) : Answers :=
  let begun := server.begin state
  let held := server.answer (.shareSites request.event) begun.2
  let stored := server.answer (.insertField request) held.2
  { begun := begun.1
    held := @Dialogue.firstOf? _ (.shareSites request.event) decodeSites held.1
    stored := @Dialogue.firstOf _ (.insertField request) decodeRow stored.1
    committed := (server.commit stored.2).1 }

namespace Answers

/-- The sites that the field has to fit: none without a row, and none where the cell is null. -/
inductive Holds (said : Answers) : Option (List SiteId) → Prop where
  | absent (noRow : said.held = .ok none) : said.Holds none
  | listed (sites? : Option (List SiteId)) (row : said.held = .ok (some sites?)) :
      said.Holds sites?

def Admits (said : Answers) (values : List Double) : Prop :=
  ∃ sites?, said.Holds sites? ∧ checkField sites? values = .ok ()

def work (said : Answers) (request : NewField) : Work StoreError FieldRow :=
  .reading (.shareSites request.event) said.held fun held =>
    match checkField held.join request.values with
    | .error violation => .ends (.error (.invalid violation))
    | .ok () => .reading (.insertField request) said.stored fun row => .ends (.ok (.keep row))

end Answers

theorem store_done {σ : Type} (server : Server σ) (request : NewField) (state : σ) :
    let said := answers server request state
    (said.work request).Done server said.committed
      ((Session.ofDialogue (store request)).run server (server.begin state).2) := by
  refine Work.Done.reading (Session.run_first? server (.shareSites request.event) decodeSites _) ?_
  intro held read
  cases checkField held.join request.values with
  | error violation => exact .of_error rfl rfl
  | ok =>
      refine Work.Done.reading (Session.run_first server (.insertField request) decodeRow _) ?_
      intro row read
      exact ⟨rfl, rfl, fun _ _ => rfl⟩

section Work

variable {said : Answers} {request : NewField} {sites? : Option (List SiteId)}

theorem Answers.Holds.held (holds : said.Holds sites?) :
    ∃ held, said.held = .ok held ∧ held.join = sites? := by
  cases holds with
  | absent noRow => exact ⟨none, noRow, rfl⟩
  | listed sites? row => exact ⟨some sites?, row, rfl⟩

theorem Answers.holds_of_held {held : Option (Option (List SiteId))} (read : said.held = .ok held) :
    said.Holds held.join := by
  cases held with
  | none => exact .absent read
  | some sites? => exact .listed sites? read

theorem work_of_fit (holds : said.Holds sites?) (fits : checkField sites? request.values = .ok ()) :
    said.work request =
      let insertion := Work.reading (.insertField request) said.stored fun row =>
        .ends (.ok (.keep row))
      ⟨.shareSites request.event :: insertion.statements, insertion.outcome⟩ := by
  obtain ⟨held, read, same⟩ := holds.held
  subst same
  rw [Answers.work, Work.reading_of_ok read, fits]

theorem work_of_misfit {violation : Violation} (holds : said.Holds sites?)
    (misfit : checkField sites? request.values = .error violation) :
    said.work request = ⟨[.shareSites request.event], .error (.invalid violation)⟩ := by
  obtain ⟨held, read, same⟩ := holds.held
  subst same
  rw [Answers.work, Work.reading_of_ok read, misfit]
  rfl

theorem work_of_not_admits (refused : ¬said.Admits request.values) :
    (said.work request).statements = [.shareSites request.event] ∧
      ∃ error, (said.work request).outcome = .error error := by
  cases read : said.held with
  | error fault =>
      rw [Answers.work, Work.reading_of_error read]
      exact ⟨rfl, _, rfl⟩
  | ok held =>
      have holds := Answers.holds_of_held read
      cases checked : checkField held.join request.values with
      | ok => exact absurd ⟨_, holds, checked⟩ refused
      | error violation =>
          rw [work_of_misfit holds checked]
          exact ⟨rfl, _, rfl⟩

theorem sent_insertField {other : NewField} :
    .insertField other ∈ (said.work request).statements ↔
      other = request ∧ said.Admits request.values := by
  by_cases admits : said.Admits request.values
  · obtain ⟨sites?, holds, fits⟩ := admits
    rw [work_of_fit holds fits]
    have leave : said.Admits request.values := ⟨sites?, holds, fits⟩
    simp [Work.mem_reading, Work.ends, leave]
  · rw [(work_of_not_admits admits).1]
    simp [admits]

theorem mem_statements {statement : Statement} (sent : statement ∈ (said.work request).statements) :
    statement = .shareSites request.event ∨ statement = .insertField request := by
  by_cases admits : said.Admits request.values
  · obtain ⟨sites?, holds, fits⟩ := admits
    rw [work_of_fit holds fits] at sent
    simpa [Work.mem_reading, Work.ends] using sent
  · rw [(work_of_not_admits admits).1] at sent
    exact Or.inl (List.mem_singleton.1 sent)

theorem work_keeps {row : FieldRow} {committed : Prop} :
    ((said.work request).outcome = .ok (.discard row) ∨
      (said.work request).outcome = .ok (.keep row) ∧ committed) ↔
        said.Admits request.values ∧ said.stored = .ok row ∧ committed := by
  by_cases admits : said.Admits request.values
  · obtain ⟨sites?, holds, fits⟩ := admits
    have leave : said.Admits request.values := ⟨sites?, holds, fits⟩
    rw [work_of_fit holds fits, Work.reading_outcome, Work.reading_outcome]
    simp [Work.ends, leave]
  · obtain ⟨error, failed⟩ := (work_of_not_admits admits).2
    simp [failed, admits]

end Work

/-- How the call fares on its answers. The cases follow the requests: each but the last says what
comes of the call when one request does not lead to the next. -/
structure Decides (said : Answers) (request : NewField) (trace : List Event)
    (result : Except StoreError FieldRow) : Prop where
  unopened : ∀ error, said.begun = .error error →
    trace = Course.unopened.events ∧ result = .error (.database (.server error))
  unread : ∀ fault, said.begun = .ok () → said.held = .error fault →
    trace = (Course.undone [.shareSites request.event]).events ∧ result = .error (.database fault)
  rejected : ∀ sites? violation, said.begun = .ok () → said.Holds sites? →
    checkField sites? request.values = .error violation →
      trace = (Course.undone [.shareSites request.event]).events ∧
        result = .error (.invalid violation)
  unwritten : ∀ fault, said.begun = .ok () → said.Admits request.values →
    said.stored = .error fault →
      trace = (Course.undone [.shareSites request.event, .insertField request]).events ∧
        result = .error (.database fault)
  uncommitted : ∀ row error, said.begun = .ok () → said.Admits request.values →
    said.stored = .ok row → said.committed = .error error →
      trace = (Course.refused [.shareSites request.event, .insertField request]).events ∧
        result = .error (.database (.server error))
  stored : ∀ row, said.begun = .ok () → said.Admits request.values →
    said.stored = .ok row → said.committed = .ok () →
      trace = (Course.kept [.shareSites request.event, .insertField request]).events ∧
        result = .ok row
  inserts_iff : ∀ other, .sent (.insertField other) ∈ trace ↔
    other = request ∧ said.begun = .ok () ∧ said.Admits request.values
  carries : ∀ statement, .sent statement ∈ trace →
    statement = .shareSites request.event ∧ statement.parameters = [.row request.event] ∨
      statement = .insertField request ∧ statement.parameters =
        [.row request.event, .row request.container, .row request.measure, .doubles request.values]
  succeeds_iff : ∀ row, result = .ok row ↔ said.begun = .ok () ∧ said.Admits request.values ∧
    said.stored = .ok row ∧ said.committed = .ok ()
  siteless : said.held = .ok (some (some [])) → ∀ other, .sent (.insertField other) ∉ trace

theorem not_admits_of_siteless {said : Answers} (siteless : said.held = .ok (some (some [])))
    (values : List Double) : ¬said.Admits values := by
  intro admits
  obtain ⟨sites?, holds, fits⟩ := admits
  obtain ⟨held, read, same⟩ := holds.held
  rw [siteless] at read
  cases read
  subst same
  obtain ⟨filled, _, fitting⟩ := (checkField_ok_iff _ values).1 fits
  exact filled (List.eq_nil_of_length_eq_zero (fitting [] rfl).1.symm)

theorem verdict_decides (said : Answers) (request : NewField) :
    Decides said request ((said.work request).verdict said.begun said.committed).1.events
      ((said.work request).verdict said.begun said.committed).2 where
  unopened error begun := by
    rw [begun]
    exact ⟨rfl, rfl⟩
  unread fault begun held := by
    rw [begun, Answers.work, Work.reading_of_error held]
    exact ⟨rfl, rfl⟩
  rejected sites? violation begun holds misfit := by
    rw [begun, work_of_misfit holds misfit]
    exact ⟨rfl, rfl⟩
  unwritten fault begun admits stored := by
    obtain ⟨sites?, holds, fits⟩ := admits
    rw [begun, work_of_fit holds fits, Work.reading_of_error stored]
    exact ⟨rfl, rfl⟩
  uncommitted row error begun admits stored committed := by
    obtain ⟨sites?, holds, fits⟩ := admits
    rw [begun, work_of_fit holds fits, Work.reading_of_ok stored, committed]
    exact ⟨rfl, rfl⟩
  stored row begun admits stored committed := by
    obtain ⟨sites?, holds, fits⟩ := admits
    rw [begun, work_of_fit holds fits, Work.reading_of_ok stored, committed]
    exact ⟨rfl, rfl⟩
  inserts_iff other := by
    rw [Work.sent_verdict, sent_insertField]
    exact and_left_comm
  carries statement sent := by
    rcases mem_statements (Work.sent_verdict.1 sent).2 with asked | inserted
    · subst asked
      exact Or.inl ⟨rfl, rfl⟩
    · subst inserted
      exact Or.inr ⟨rfl, rfl⟩
  succeeds_iff row := by
    rw [Work.verdict_result, work_keeps]
  siteless siteless other sent := by
    obtain ⟨_, admits⟩ := sent_insertField.1 (Work.sent_verdict.1 sent).2
    exact not_admits_of_siteless siteless _ admits

def repeatingScript : List ScriptEntry :=
  [fun
    | .shareSites _ => .ok (.rows [(some [some 4, some 4], ())])
    | _ => .error Server.exhausted]

end HazardStore.Fields
