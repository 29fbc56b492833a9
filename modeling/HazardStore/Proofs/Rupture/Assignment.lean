import HazardStore.Proofs.GroundMotion.Field
import HazardStore.Proofs.Session.Transactions
import HazardStore.Session.Script
import HazardStore.Store.Ruptures
/-!
The decision to write the site indices of a rupture. It is taken from the indices themselves and from
what the server says to five requests, each made only where the ones before it allow it. The indices
of a rupture are written once: a rupture that has some keeps them, and one with fields stored for
every site by position gets none.
-/

namespace HazardStore.Ruptures

open GroundMotion

/-- What is read from the answers to the requests of one call. The indices held are read from the
first row, if there is one, and may be null there; the count and the row written have to be there. -/
structure Answers where
  begun : Except ServerError Unit
  held : Except Fault (Option (Option (List SiteId)))
  stored : Except Fault Int64
  written : Except Fault RuptureRow
  committed : Except ServerError Unit

def answers {σ : Type} (server : Server σ) (rupture : RecordId) (sites : List SiteId) (state : σ) :
    Answers :=
  let begun := server.begin state
  let held := server.answer (.lockSites rupture) begun.2
  let stored := server.answer (.countFields rupture) held.2
  let written := server.answer (.updateSites rupture sites) stored.2
  { begun := begun.1
    held := @Dialogue.firstOf? _ (.lockSites rupture) decodeSites held.1
    stored := @Dialogue.firstOf _ (.countFields rupture) decodeCount stored.1
    written := @Dialogue.firstOf _ (.updateSites rupture sites) decodeRow written.1
    committed := (server.commit written.2).1 }

namespace Answers

variable (answers : Answers) (rupture : RecordId) (sites : List SiteId)

def Vacant : Prop :=
  answers.held = .ok (some none)

def Free : Prop :=
  answers.Vacant ∧ ∃ total, answers.stored = .ok total ∧ total ≤ 0

def work : Work StoreError (Option RuptureRow) :=
  .reading (.lockSites rupture) answers.held fun
    | some none => .reading (.countFields rupture) answers.stored fun total =>
        if 0 < total then .ends (.error (.conflict (.fieldsStored rupture total)))
        else .reading (.updateSites rupture sites) answers.written fun row =>
          .ends (.ok (.keep (some row)))
    | _ => .ends (.ok (.discard none))

end Answers

theorem assignSites_done {σ : Type} (server : Server σ) (rupture : RecordId) (sites : List SiteId)
    (state : σ) :
    let said := answers server rupture sites state
    (said.work rupture sites).Done server said.committed
      ((Session.ofDialogue (assignSites rupture sites)).run server (server.begin state).2) := by
  refine Work.Done.reading (Session.run_first? server (.lockSites rupture) decodeSites _) ?_
  intro held read
  rcases held with _ | _ | indices
  · exact ⟨rfl, rfl, fun _ impossible => nomatch impossible⟩
  · refine Work.Done.reading (Session.run_first server (.countFields rupture) decodeCount _) ?_
    intro total read
    by_cases positive : 0 < total
    · rw [if_pos positive, if_pos positive]
      exact ⟨rfl, rfl, fun _ impossible => nomatch impossible⟩
    · rw [if_neg positive, if_neg positive]
      refine Work.Done.reading (Session.run_first server (.updateSites rupture sites) decodeRow _) ?_
      intro row read
      exact ⟨rfl, rfl, fun _ _ => rfl⟩
  · exact ⟨rfl, rfl, fun _ impossible => nomatch impossible⟩

section Work

variable {said : Answers} {rupture : RecordId} {sites : List SiteId}

theorem work_of_free (free : said.Free) :
    said.work rupture sites =
      let update := Work.reading (.updateSites rupture sites) said.written fun row =>
        .ends (.ok (.keep (some row)))
      ⟨.lockSites rupture :: .countFields rupture :: update.statements, update.outcome⟩ := by
  obtain ⟨vacant, total, stored, nothing⟩ := free
  rw [Answers.work, Work.reading_of_ok vacant, Work.reading_of_ok stored,
    if_neg (Int64.not_lt.2 nothing)]

theorem work_of_not_free (rupture : RecordId) (sites : List SiteId) (taken : ¬said.Free) :
    .updateSites rupture sites ∉ (said.work rupture sites).statements ∧
      ∀ row, (said.work rupture sites).outcome ≠ .ok (.discard (some row)) ∧
        (said.work rupture sites).outcome ≠ .ok (.keep (some row)) := by
  unfold Answers.work
  cases held : said.held with
  | error fault =>
      rw [Work.reading_of_error rfl]
      simp
  | ok held? =>
      rw [Work.reading_of_ok rfl]
      rcases held? with _ | _ | indices
      · simp [Work.ends]
      · cases stored : said.stored with
        | error fault =>
            rw [Work.reading_of_error rfl]
            simp
        | ok total =>
            have positive : 0 < total :=
              Int64.not_le.1 (fun nothing => taken ⟨held, total, stored, nothing⟩)
            rw [Work.reading_of_ok rfl]
            simp [positive, Work.ends]
      · simp [Work.ends]

theorem sent_update :
    .updateSites rupture sites ∈ (said.work rupture sites).statements ↔ said.Free := by
  by_cases free : said.Free
  · rw [work_of_free free]
    simp [Work.mem_reading, free]
  · exact iff_of_false (work_of_not_free rupture sites free).1 free

theorem mem_statements {statement : Statement}
    (sent : statement ∈ (said.work rupture sites).statements) :
    statement = .lockSites rupture ∨ statement = .countFields rupture ∨
      statement = .updateSites rupture sites := by
  unfold Answers.work at sent
  rcases Work.mem_reading.1 sent with locked | ⟨held, _, afterLock⟩
  · exact Or.inl locked
  · rcases held with _ | _ | indices
    · cases afterLock
    · rcases Work.mem_reading.1 afterLock with counted | ⟨total, _, afterCount⟩
      · exact Or.inr (Or.inl counted)
      · by_cases positive : 0 < total
        · rw [if_pos positive] at afterCount
          cases afterCount
        · rw [if_neg positive] at afterCount
          rcases Work.mem_reading.1 afterCount with updated | ⟨row, _, afterUpdate⟩
          · exact Or.inr (Or.inr updated)
          · cases afterUpdate
    · cases afterLock

theorem work_succeeds {row : RuptureRow} {committed : Prop} :
    ((said.work rupture sites).outcome = .ok (.discard (some row)) ∨
      (said.work rupture sites).outcome = .ok (.keep (some row)) ∧ committed) ↔
        said.Free ∧ said.written = .ok row ∧ committed := by
  by_cases free : said.Free
  · rw [work_of_free free, Work.reading_outcome, Work.reading_outcome]
    simp [Work.ends, free]
  · obtain ⟨_, others⟩ := work_of_not_free rupture sites free
    obtain ⟨discards, keeps⟩ := others row
    simp [discards, keeps, free]

end Work

def Indices (sites : List SiteId) : Prop :=
  (∀ site ∈ sites, 0 ≤ site) ∧ sites.Nodup

def decision (said : Answers) (rupture : RecordId) (sites : List SiteId) :
    Course × Except StoreError (Option RuptureRow) :=
  match checkSites sites with
  | .error violation => (.silent, .error (.invalid violation))
  | .ok () => (said.work rupture sites).verdict said.begun said.committed

theorem run_setSites {σ : Type} (server : Server σ) (rupture : RecordId) (sites : List SiteId)
    (state : σ) :
    let said := answers server rupture sites state
    let run := (setSites rupture sites).run server state
    run.trace = (decision said rupture sites).1.events ∧
      run.result = (decision said rupture sites).2 := by
  intro said run
  unfold run setSites decision
  cases checkSites sites with
  | error violation => exact ⟨rfl, rfl⟩
  | ok => exact (assignSites_done server rupture sites state).bracket

section Decisions

variable (said : Answers) (rupture : RecordId) {sites : List SiteId}

theorem decision_of_indices (indices : Indices sites) :
    decision said rupture sites = (said.work rupture sites).verdict said.begun said.committed := by
  unfold decision
  rw [(checkSites_ok_iff sites).2 indices]

theorem decision_of_not_indices (rejected : ¬Indices sites) :
    ∃ violation, checkSites sites = .error violation ∧
      decision said rupture sites = (.silent, .error (.invalid violation)) := by
  cases checked : checkSites sites with
  | error violation =>
      refine ⟨violation, rfl, ?_⟩
      unfold decision
      rw [checked]
  | ok => exact absurd ((checkSites_ok_iff sites).1 checked) rejected

end Decisions

/-- How the call fares on its answers. The cases follow the requests: each but the last says what
comes of the call when one request does not lead to the next. -/
structure Decides (said : Answers) (rupture : RecordId) (sites : List SiteId) (trace : List Event)
    (result : Except StoreError (Option RuptureRow)) : Prop where
  rejected : ¬Indices sites → trace = [] ∧ ∃ violation, checkSites sites = .error violation ∧
    result = .error (.invalid violation)
  unopened : ∀ error, Indices sites → said.begun = .error error →
    trace = Course.unopened.events ∧ result = .error (.database (.server error))
  unread : ∀ fault, Indices sites → said.begun = .ok () → said.held = .error fault →
    trace = (Course.undone [.lockSites rupture]).events ∧ result = .error (.database fault)
  untouched : ∀ held, Indices sites → said.begun = .ok () → said.held = .ok held →
    held ≠ some none →
      trace = (Course.undone [.lockSites rupture]).events ∧ result = .ok none
  uncounted : ∀ fault, Indices sites → said.begun = .ok () → said.Vacant →
    said.stored = .error fault →
      trace = (Course.undone [.lockSites rupture, .countFields rupture]).events ∧
        result = .error (.database fault)
  conflicting : ∀ total, Indices sites → said.begun = .ok () → said.Vacant →
    said.stored = .ok total → 0 < total →
      trace = (Course.undone [.lockSites rupture, .countFields rupture]).events ∧
        result = .error (.conflict (.fieldsStored rupture total))
  unwritten : ∀ fault, Indices sites → said.begun = .ok () → said.Free →
    said.written = .error fault →
      trace = (Course.undone [.lockSites rupture, .countFields rupture,
          .updateSites rupture sites]).events ∧
        result = .error (.database fault)
  uncommitted : ∀ row error, Indices sites → said.begun = .ok () → said.Free →
    said.written = .ok row → said.committed = .error error →
      trace = (Course.refused [.lockSites rupture, .countFields rupture,
          .updateSites rupture sites]).events ∧
        result = .error (.database (.server error))
  written : ∀ row, Indices sites → said.begun = .ok () → said.Free →
    said.written = .ok row → said.committed = .ok () →
      trace = (Course.kept [.lockSites rupture, .countFields rupture,
          .updateSites rupture sites]).events ∧
        result = .ok (some row)
  updates_iff : .sent (.updateSites rupture sites) ∈ trace ↔
    Indices sites ∧ said.begun = .ok () ∧ said.Free
  carries : ∀ statement, .sent statement ∈ trace →
    (statement = .lockSites rupture ∨ statement = .countFields rupture) ∧
        statement.parameters = [.row rupture] ∨
      statement = .updateSites rupture sites ∧
        statement.parameters = [.row rupture, .sites sites]
  succeeds_iff : ∀ row, result = .ok (some row) ↔ Indices sites ∧ said.begun = .ok () ∧
    said.Free ∧ said.written = .ok row ∧ said.committed = .ok ()

theorem decision_decides (said : Answers) (rupture : RecordId) (sites : List SiteId) :
    Decides said rupture sites (decision said rupture sites).1.events
      (decision said rupture sites).2 where
  rejected rejected := by
    obtain ⟨violation, checked, decided⟩ := decision_of_not_indices said rupture rejected
    rw [decided]
    exact ⟨rfl, violation, checked, rfl⟩
  unopened error indices begun := by
    rw [decision_of_indices said rupture indices, begun]
    exact ⟨rfl, rfl⟩
  unread fault indices begun held := by
    rw [decision_of_indices said rupture indices, begun, Answers.work, Work.reading_of_error held]
    exact ⟨rfl, rfl⟩
  untouched held indices begun read taken := by
    rw [decision_of_indices said rupture indices, begun, Answers.work, Work.reading_of_ok read]
    rcases held with _ | _ | indices
    · exact ⟨rfl, rfl⟩
    · exact absurd rfl taken
    · exact ⟨rfl, rfl⟩
  uncounted fault indices begun vacant stored := by
    rw [decision_of_indices said rupture indices, begun, Answers.work, Work.reading_of_ok vacant,
      Work.reading_of_error stored]
    exact ⟨rfl, rfl⟩
  conflicting total indices begun vacant stored positive := by
    rw [decision_of_indices said rupture indices, begun, Answers.work, Work.reading_of_ok vacant,
      Work.reading_of_ok stored, if_pos positive]
    exact ⟨rfl, rfl⟩
  unwritten fault indices begun free written := by
    rw [decision_of_indices said rupture indices, begun, work_of_free free,
      Work.reading_of_error written]
    exact ⟨rfl, rfl⟩
  uncommitted row error indices begun free written committed := by
    rw [decision_of_indices said rupture indices, begun, work_of_free free,
      Work.reading_of_ok written, committed]
    exact ⟨rfl, rfl⟩
  written row indices begun free written committed := by
    rw [decision_of_indices said rupture indices, begun, work_of_free free,
      Work.reading_of_ok written, committed]
    exact ⟨rfl, rfl⟩
  updates_iff := by
    by_cases indices : Indices sites
    · rw [decision_of_indices said rupture indices, Work.sent_verdict, sent_update]
      exact (and_iff_right indices).symm
    · obtain ⟨violation, _, decided⟩ := decision_of_not_indices said rupture indices
      rw [decided]
      exact iff_of_false (fun sent => nomatch sent) (fun all => indices all.1)
  carries statement sent := by
    by_cases indices : Indices sites
    · rw [decision_of_indices said rupture indices] at sent
      rcases mem_statements (Work.sent_verdict.1 sent).2 with locked | counted | updated
      · subst locked
        exact Or.inl ⟨Or.inl rfl, rfl⟩
      · subst counted
        exact Or.inl ⟨Or.inr rfl, rfl⟩
      · subst updated
        exact Or.inr ⟨rfl, rfl⟩
    · obtain ⟨violation, _, decided⟩ := decision_of_not_indices said rupture indices
      rw [decided] at sent
      cases sent
  succeeds_iff row := by
    by_cases indices : Indices sites
    · rw [decision_of_indices said rupture indices, Work.verdict_result, work_succeeds]
      exact (and_iff_right indices).symm
    · obtain ⟨violation, _, decided⟩ := decision_of_not_indices said rupture indices
      rw [decided]
      exact iff_of_false (fun impossible => nomatch impossible) (fun all => indices all.1)

def lateScript : List ScriptEntry :=
  [fun
    | .lockSites _ => .ok (.rows [(none, ())])
    | _ => .error Server.exhausted,
  fun
    | .countFields _ => .ok (.rows [(some (2 : Int64), ())])
    | _ => .error Server.exhausted]

end HazardStore.Ruptures
