import HazardStore.Proofs.Rupture.SiteOrder
import HazardStore.Proofs.Session.Runs
/-!
Storing a field on a server that keeps the declared constraints: a request either leaves the tables
as they were or adds its field in a fresh row, where what the field refers to is there and the field
fits its rupture.
-/

namespace HazardStore

structure FieldTables extends Tables where
  containers : List ContainerRow
  measures : List MeasureRow

namespace FieldTables

structure Refers (tables : FieldTables) (request : NewField) : Prop where
  event : ∃ row ∈ tables.events, row.id = request.event
  container : ∃ row ∈ tables.containers, row.id = request.container
  measure : ∃ row ∈ tables.measures, row.id = request.measure

/-- The sites of the rupture of an event rupture; one that is not there lists none. -/
def sitesOf? (tables : FieldTables) (event : RecordId) : Option (List SiteId) :=
  (tables.rupturesOf event).head?.bind RuptureRow.sites?

structure Storable (tables : FieldTables) (request : NewField) : Prop where
  refers : tables.Refers request
  fits : GroundMotion.checkField (tables.sitesOf? request.event) request.values = .ok ()

def addField (tables : FieldTables) (row : FieldRow) : FieldTables :=
  { tables with fields := tables.fields ++ [row] }

end FieldTables

/-- A server that keeps the declared constraints of fields: a primary key and three references. -/
structure FieldServer (σ : Type) extends Server σ where
  tables : σ → FieldTables
  saved : σ → FieldTables
  begin_tables : ∀ state, tables (begin state).2 = tables state
  begin_saved : ∀ state, (begin state).1 = .ok () → saved (begin state).2 = tables state
  commit_tables : ∀ state, (commit state).1 = .ok () → tables (commit state).2 = tables state
  commit_saved : ∀ state error, (commit state).1 = .error error →
    saved (commit state).2 = saved state
  rollback_tables : ∀ state, tables (rollback state) = saved state
  answer_saved : ∀ statement state, saved (answer statement state).2 = saved state
  share_rows : ∀ event state reply after,
    answer (.shareSites event) state = (.ok reply, after) → tables after = tables state ∧
      reply = .rows (((tables state).rupturesOf event).map RuptureRow.sitesCell)
  insert_rows : ∀ request state reply after,
    answer (.insertField request) state = (.ok reply, after) →
      ∃ id, (∀ row ∈ (tables state).fields, row.id ≠ id) ∧ (tables state).Refers request ∧
        tables after = (tables state).addField (request.row id) ∧
        reply = .rows [(request.row id).cells]
  site_rows : ∀ container measure site state,
    answer (.fieldsAtSite container measure site) state =
      (.ok (.rows (((tables state).fieldsAtSite container measure site).map
        Fields.FieldAtSite.cells)), state)

/-- What becomes of a request: nothing is stored, or its field in a fresh row. -/
inductive FieldCreation (before : FieldTables) (request : NewField) :
    Except StoreError FieldRow → FieldTables → Prop where
  | failed (error : StoreError) : FieldCreation before request (.error error) before
  | stored (id : RecordId) (fresh : ∀ row ∈ before.fields, row.id ≠ id)
      (refers : before.Refers request)
      (fits : GroundMotion.checkField (before.sitesOf? request.event) request.values = .ok ()) :
      FieldCreation before request (.ok (request.row id)) (before.addField (request.row id))

namespace FieldServer

variable {σ α β : Type} (server : FieldServer σ) (request : NewField) (state : σ)

/-- Inside a transaction: what a rollback returns to stays, and a success leaves the tables as
`post` says. -/
def Leaves (post : α → FieldTables → Prop) (run : Run σ StoreError α) : Prop :=
  server.saved run.state = server.saved state ∧
    ∀ value, run.result = .ok value → post value (server.tables run.state)

theorem Leaves.andThen {server : FieldServer σ} {state : σ} {middle : α → FieldTables → Prop}
    {post : β → FieldTables → Prop} {run : Run σ StoreError α} {next : α → σ → Run σ StoreError β}
    (first : server.Leaves state middle run)
    (rest : ∀ value after, middle value (server.tables after) →
      server.Leaves after post (next value after)) :
    server.Leaves state post (run.andThen next) := by
  obtain ⟨result, after, trace⟩ := run
  obtain ⟨kept, reached⟩ := first
  cases result with
  | error error => exact ⟨kept, fun value impossible => nomatch impossible⟩
  | ok value =>
      obtain ⟨keptLater, reachedLater⟩ := rest value after (reached value rfl)
      exact ⟨keptLater.trans kept, reachedLater⟩

theorem join_sites (tables : FieldTables) (event : RecordId) :
    ((tables.rupturesOf event).head?.map RuptureRow.sites?).join = tables.sitesOf? event := by
  unfold FieldTables.sitesOf?
  cases (tables.rupturesOf event).head? <;> rfl

theorem share_run {event : RecordId} {reply : Reply (.shareSites event)} {after : σ}
    (answered : server.answer (.shareSites event) state = (.ok reply, after)) :
    (Session.ofDialogue (Dialogue.first? (.shareSites event) Fields.decodeSites) :
      Session StoreError _).run server.toServer state =
      ⟨.ok (((server.tables state).rupturesOf event).head?.map RuptureRow.sites?), after,
        [.sent (.shareSites event)]⟩ := by
  rw [(server.share_rows _ _ _ _ answered).2] at answered
  exact Session.run_first?_of_rows server.toServer RuptureRow.integers?_sitesCell answered

theorem share_leaves (event : RecordId) :
    server.Leaves state
      (fun sites? tables => sites?.join = (server.tables state).sitesOf? event ∧
        tables = server.tables state)
      ((Session.ofDialogue (Dialogue.first? (.shareSites event) Fields.decodeSites)).run
        server.toServer state) := by
  have kept := server.answer_saved (.shareSites event) state
  cases answered : server.answer (.shareSites event) state with
  | mk outcome after =>
      rw [answered] at kept
      cases outcome with
      | error error =>
          have run := Session.run_first? (ε := StoreError) server.toServer (.shareSites event)
            Fields.decodeSites state
          rw [answered] at run
          rw [run]
          exact ⟨kept, fun value impossible => nomatch impossible⟩
      | ok reply =>
          rw [server.share_run state answered]
          refine ⟨kept, ?_⟩
          intro value same
          cases same
          exact ⟨join_sites _ event, (server.share_rows _ _ _ _ answered).1⟩

theorem insert_run {reply : Reply (.insertField request)} {after : σ}
    (answered : server.answer (.insertField request) state = (.ok reply, after)) :
    ∃ id, (∀ row ∈ (server.tables state).fields, row.id ≠ id) ∧
      (server.tables state).Refers request ∧
      server.tables after = (server.tables state).addField (request.row id) ∧
      (Session.ofDialogue (Dialogue.first (.insertField request) Fields.decodeRow) :
        Session StoreError _).run server.toServer state =
        ⟨.ok (request.row id), after, [.sent (.insertField request)]⟩ := by
  obtain ⟨id, fresh, refers, added, rows⟩ := server.insert_rows _ _ _ _ answered
  rw [rows] at answered
  exact ⟨id, fresh, refers, added, Session.run_first_of_row server.toServer
    (FieldRow.decodeRow_cells _) answered⟩

theorem insert_leaves :
    server.Leaves state
      (fun row tables => ∃ id, row = request.row id ∧
        (∀ row ∈ (server.tables state).fields, row.id ≠ id) ∧
        (server.tables state).Refers request ∧
        tables = (server.tables state).addField (request.row id))
      ((Session.ofDialogue (Dialogue.first (.insertField request) Fields.decodeRow)).run
        server.toServer state) := by
  have kept := server.answer_saved (.insertField request) state
  cases answered : server.answer (.insertField request) state with
  | mk outcome after =>
      rw [answered] at kept
      cases outcome with
      | error error =>
          have run := Session.run_first (ε := StoreError) server.toServer (.insertField request)
            Fields.decodeRow state
          rw [answered] at run
          rw [run]
          exact ⟨kept, fun value impossible => nomatch impossible⟩
      | ok reply =>
          obtain ⟨id, fresh, refers, added, run⟩ := server.insert_run request state answered
          rw [run]
          refine ⟨kept, ?_⟩
          intro value same
          cases same
          exact ⟨id, rfl, fresh, refers, added⟩

theorem store_leaves :
    server.Leaves state
      (fun ending tables => ∃ row, ending = .keep row ∧
        FieldCreation (server.tables state) request (.ok row) tables)
      ((Session.ofDialogue (Fields.store request)).run server.toServer state) := by
  unfold Fields.store
  rw [Session.ofDialogue_bind, Session.run_bind]
  refine (server.share_leaves state request.event).andThen ?_
  intro sites? middle shared
  obtain ⟨sites, unchanged⟩ := shared
  rw [sites, ← unchanged]
  cases fits : GroundMotion.checkField ((server.tables middle).sitesOf? request.event)
      request.values with
  | error violation => exact ⟨rfl, fun value impossible => nomatch impossible⟩
  | ok accepted =>
      change server.Leaves middle _ ((Session.ofDialogue (Dialogue.first (.insertField request)
        Fields.decodeRow >>= fun row => .done (Ending.keep row))).run server.toServer middle)
      rw [Session.ofDialogue_bind, Session.run_bind]
      refine (server.insert_leaves request middle).andThen ?_
      intro row after inserted
      obtain ⟨id, same, fresh, refers, added⟩ := inserted
      refine ⟨rfl, ?_⟩
      intro value succeeded
      cases succeeded
      refine ⟨row, rfl, ?_⟩
      change FieldCreation _ _ _ (server.tables after)
      rw [same, added]
      exact .stored id fresh refers fits

theorem create_creation :
    FieldCreation (server.tables state) request
      ((Fields.create request).run server.toServer state).result
      (server.tables ((Fields.create request).run server.toServer state).state) := by
  unfold Fields.create Session.bracket
  simp only [Session.run_begin, Run.after_result, Run.after_state]
  cases begun : (server.begin state).1 with
  | error error =>
      simp only [Session.run]
      rw [server.begin_tables]
      exact .failed _
  | ok =>
      obtain ⟨kept, stored⟩ := server.store_leaves request (server.begin state).2
      rw [server.begin_saved state begun] at kept
      rw [server.begin_tables] at stored
      simp only [Session.run_conclude]
      generalize (Session.ofDialogue (Fields.store request)).run server.toServer
        (server.begin state).2 = worked at kept stored ⊢
      cases finished : worked.result with
      | error error =>
          change FieldCreation _ request (.error error)
            (server.tables (server.rollback worked.state))
          rw [server.rollback_tables, kept]
          exact .failed error
      | ok ended =>
          obtain ⟨row, same, creation⟩ := stored ended finished
          rw [same]
          simp only [Session.ending, Session.conclude, Session.run_commit, Run.after_result,
            Run.after_state]
          cases committed : (server.commit worked.state).1 with
          | ok =>
              change FieldCreation _ request (.ok row)
                (server.tables (server.commit worked.state).2)
              rw [server.commit_tables _ committed]
              exact creation
          -- what a rollback returns to is still what was there at the begin
          | error error =>
              change FieldCreation _ request (.error _)
                (server.tables (server.rollback (server.commit worked.state).2))
              rw [server.rollback_tables, server.commit_saved _ _ committed, kept]
              exact .failed _

/-- A server that refuses a field only for what it refers to, as long as it has an identity left. -/
structure Exact (room : FieldTables → Prop) : Prop where
  begins : ∀ state, (server.begin state).1 = .ok ()
  commits : ∀ state, (server.commit state).1 = .ok ()
  shares : ∀ event state, ∃ reply, (server.answer (.shareSites event) state).1 = .ok reply
  inserts : ∀ request state, (server.tables state).Refers request → room (server.tables state) →
    ∃ reply, (server.answer (.insertField request) state).1 = .ok reply

variable {server} {room : FieldTables → Prop}

theorem Exact.store_keeps (exact : server.Exact room)
    (storable : (server.tables state).Storable request) (left : room (server.tables state)) :
    ∃ id, ((Session.ofDialogue (Fields.store request)).run server.toServer state).result =
      .ok (.keep (request.row id)) := by
  obtain ⟨reply, replied⟩ := exact.shares request.event state
  cases shared : server.answer (.shareSites request.event) state with
  | mk outcome middle =>
      rw [shared] at replied
      cases replied
      have unchanged := (server.share_rows _ _ _ _ shared).1
      obtain ⟨refers, fits⟩ := storable
      rw [← unchanged] at refers left
      obtain ⟨given, accepted⟩ := exact.inserts request middle refers left
      cases inserted : server.answer (.insertField request) middle with
      | mk result after =>
          rw [inserted] at accepted
          cases accepted
          obtain ⟨id, _, _, _, run⟩ := server.insert_run request middle inserted
          refine ⟨id, ?_⟩
          unfold Fields.store
          rw [Session.ofDialogue_bind, Session.run_bind, server.share_run state shared,
            Run.andThen]
          dsimp only
          rw [join_sites, fits]
          change ((Session.ofDialogue (Dialogue.first (.insertField request) Fields.decodeRow >>=
            fun row => .done (Ending.keep row))).run server.toServer middle).result = _
          rw [Session.ofDialogue_bind, Session.run_bind, run]
          rfl

theorem Exact.create_succeeds (exact : server.Exact room)
    (storable : (server.tables state).Storable request) (left : room (server.tables state)) :
    ∃ id, ((Fields.create request).run server.toServer state).result = .ok (request.row id) := by
  rw [← server.begin_tables] at storable left
  obtain ⟨id, kept⟩ := exact.store_keeps request _ storable left
  exact ⟨id, Session.run_bracket_of_keep server.toServer _ state _ (exact.begins state) kept
    exact.commits⟩

end FieldServer

structure FieldTables.SameReferences (before after : FieldTables) : Prop where
  ruptures : after.ruptures = before.ruptures
  events : after.events = before.events
  containers : after.containers = before.containers
  measures : after.measures = before.measures

namespace FieldTables.SameReferences

variable {before middle after : FieldTables} {request : NewField}

theorem trans (first : before.SameReferences middle) (second : middle.SameReferences after) :
    before.SameReferences after :=
  ⟨second.ruptures.trans first.ruptures, second.events.trans first.events,
    second.containers.trans first.containers, second.measures.trans first.measures⟩

theorem keyed (same : before.SameReferences after) (keyed : before.Keyed) : after.Keyed := by
  refine ⟨?_, ?_⟩
  · rw [same.ruptures]
    exact keyed.ruptures
  · rw [same.events]
    exact keyed.events

theorem refers (same : before.SameReferences after) (refers : before.Refers request) :
    after.Refers request := by
  refine ⟨?_, ?_, ?_⟩
  · rw [same.events]
    exact refers.event
  · rw [same.containers]
    exact refers.container
  · rw [same.measures]
    exact refers.measure

theorem sitesOf? (same : before.SameReferences after) (event : RecordId) :
    after.sitesOf? event = before.sitesOf? event := by
  simp only [FieldTables.sitesOf?, Tables.rupturesOf, same.ruptures, same.events]

theorem storable (same : before.SameReferences after) (storable : before.Storable request) :
    after.Storable request := by
  refine ⟨same.refers storable.refers, ?_⟩
  rw [same.sitesOf?]
  exact storable.fits

end FieldTables.SameReferences

theorem FieldCreation.same {before after : FieldTables} {request : NewField}
    {outcome : Except StoreError FieldRow} (creation : FieldCreation before request outcome after) :
    before.SameReferences after := by
  cases creation with
  | failed error => exact ⟨rfl, rfl, rfl, rfl⟩
  | stored id fresh refers fits => exact ⟨rfl, rfl, rfl, rfl⟩

/-! ### The tables themselves as a server -/

structure FieldStore where
  tables : FieldTables
  saved : FieldTables

namespace FieldStore

def dangling : ServerError :=
  ⟨"23503", "insert or update on table violates foreign key constraint"⟩

def duplicate : ServerError :=
  ⟨"23505", "duplicate key value violates unique constraint"⟩

def unanswered : ServerError :=
  ⟨"0A000", "feature not supported"⟩

def next (store : FieldStore) : RecordId :=
  Int64.ofNat (store.tables.fields.length + 1)

/-- A field is refused when it refers to a row that is not there or its identity is taken, and for
nothing else. -/
def insert (store : FieldStore) (request : NewField) : Except ServerError FieldStore :=
  if store.tables.events.any (fun row => row.id == request.event) &&
      store.tables.containers.any (fun row => row.id == request.container) &&
      store.tables.measures.any (fun row => row.id == request.measure) then
    if store.tables.fields.any (fun row => row.id == store.next) then .error duplicate
    else .ok { store with tables := store.tables.addField (request.row store.next) }
  else .error dangling

theorem insert_eq_ok {store after : FieldStore} {request : NewField}
    (inserted : store.insert request = .ok after) :
    (∀ row ∈ store.tables.fields, row.id ≠ store.next) ∧ store.tables.Refers request ∧
      after = { store with tables := store.tables.addField (request.row store.next) } := by
  unfold insert at inserted
  split at inserted
  · rename_i referring
    split at inserted
    · cases inserted
    · rename_i fresh
      cases inserted
      simp only [Bool.and_eq_true, List.any_eq_true, beq_iff_eq] at referring
      obtain ⟨⟨event, container⟩, measure⟩ := referring
      refine ⟨?_, ⟨event, container, measure⟩, rfl⟩
      intro row there same
      exact fresh (List.any_eq_true.2 ⟨row, there, beq_iff_eq.2 same⟩)
  · cases inserted

def answer : (statement : Statement) → FieldStore →
    Except ServerError (Reply statement) × FieldStore
  | .shareSites event, store =>
      (.ok (.rows ((store.tables.rupturesOf event).map RuptureRow.sitesCell)), store)
  | .insertField request, store =>
      match store.insert request with
      | .ok after => (.ok (.rows [(request.row store.next).cells]), after)
      | .error error => (.error error, store)
  | .fieldsAtSite container measure site, store =>
      (.ok (.rows ((store.tables.fieldsAtSite container measure site).map
        Fields.FieldAtSite.cells)), store)
  | _, store => (.error unanswered, store)

def server : FieldServer FieldStore where
  answer := answer
  begin store := (.ok (), { store with saved := store.tables })
  commit store := (.ok (), store)
  rollback store := { store with tables := store.saved }
  tables := FieldStore.tables
  saved := FieldStore.saved
  begin_tables _ := rfl
  begin_saved _ _ := rfl
  commit_tables _ _ := rfl
  commit_saved _ _ impossible := nomatch impossible
  rollback_tables _ := rfl
  answer_saved statement store := by
    unfold answer
    split
    · rfl
    · split
      · rename_i inserted
        rw [(insert_eq_ok inserted).2.2]
      · rfl
    · rfl
    · rfl
  share_rows event store reply after answered := by
    cases answered
    exact ⟨rfl, rfl⟩
  insert_rows request store reply after answered := by
    simp only [answer] at answered
    split at answered
    · rename_i inserted
      cases answered
      obtain ⟨fresh, refers, same⟩ := insert_eq_ok inserted
      rw [same]
      exact ⟨store.next, fresh, refers, rfl, rfl⟩
    · cases answered
  site_rows _ _ _ _ := rfl

def Room (tables : FieldTables) : Prop :=
  ∀ row ∈ tables.fields, row.id ≠ Int64.ofNat (tables.fields.length + 1)

instance (tables : FieldTables) : Decidable (Room tables) :=
  inferInstanceAs (Decidable (∀ row ∈ tables.fields, row.id ≠ Int64.ofNat (tables.fields.length + 1)))

theorem server_exact : server.Exact Room where
  begins _ := rfl
  commits _ := rfl
  shares event store := ⟨_, rfl⟩
  inserts request store refers room := by
    have referring : (store.tables.events.any (fun row => row.id == request.event) &&
        store.tables.containers.any (fun row => row.id == request.container) &&
        store.tables.measures.any (fun row => row.id == request.measure)) = true := by
      simp only [Bool.and_eq_true, List.any_eq_true, beq_iff_eq]
      exact ⟨⟨refers.event, refers.container⟩, refers.measure⟩
    have free : store.tables.fields.any (fun row => row.id == store.next) = false := by
      rw [List.any_eq_false]
      intro row there same
      exact room row there (beq_iff_eq.1 same)
    refine ⟨.rows [(request.row store.next).cells], ?_⟩
    change (answer (.insertField request) store).1 = _
    simp only [answer, insert, referring, free, if_true, Bool.false_eq_true, if_false]

end FieldStore

end HazardStore
