import HazardStore.Proofs.Rupture.Storing
/-!
Fields that are stored one after the other. What is stored are the fields of the requests that
succeeded, each in a row of its own; nothing looks for a field that is already in its place, and no
declared constraint refuses a second one. A site is then answered with both.
-/

namespace HazardStore

/-- Requests one after the other: what each of them gave, and the state they leave. -/
def createAll {σ : Type} (server : Server σ) :
    List NewField → σ → List (Except StoreError FieldRow) × σ
  | [], state => ([], state)
  | request :: others, state =>
      let run := (Fields.create request).run server state
      let rest := createAll server others run.state
      (run.result :: rest.1, rest.2)

def stored (outcomes : List (Except StoreError FieldRow)) : List FieldRow :=
  outcomes.filterMap Except.toOption

inductive FieldCreations :
    FieldTables → List NewField → List (Except StoreError FieldRow) → FieldTables → Prop where
  | none (tables : FieldTables) : FieldCreations tables [] [] tables
  | next {before middle after : FieldTables} {request : NewField} {others : List NewField}
      {outcome : Except StoreError FieldRow} {outcomes : List (Except StoreError FieldRow)}
      (first : FieldCreation before request outcome middle)
      (rest : FieldCreations middle others outcomes after) :
      FieldCreations before (request :: others) (outcome :: outcomes) after

theorem FieldServer.createAll_creations {σ : Type} (server : FieldServer σ)
    (requests : List NewField) (state : σ) :
    FieldCreations (server.tables state) requests (createAll server.toServer requests state).1
      (server.tables (createAll server.toServer requests state).2) := by
  induction requests generalizing state with
  | nil => exact .none _
  | cons request others ih => exact .next (server.create_creation request state) (ih _)

def NewField.place (request : NewField) : RecordId × RecordId × RecordId :=
  (request.event, request.container, request.measure)

def FieldRow.request (field : FieldRow) : NewField where
  event := field.event
  container := field.container
  measure := field.measure
  values := field.values

namespace FieldCreations

variable {before after : FieldTables} {requests : List NewField}
  {outcomes : List (Except StoreError FieldRow)}

theorem same (creations : FieldCreations before requests outcomes after) :
    before.SameReferences after := by
  induction creations with
  | none tables => exact ⟨rfl, rfl, rfl, rfl⟩
  | next first rest ih => exact first.same.trans ih

theorem fields_eq (creations : FieldCreations before requests outcomes after) :
    after.fields = before.fields ++ stored outcomes := by
  induction creations with
  | none tables => exact (List.append_nil _).symm
  | next first rest ih =>
      rw [ih]
      cases first with
      | failed error => rfl
      | stored id fresh refers fits => exact List.append_assoc ..

theorem identities (creations : FieldCreations before requests outcomes after)
    (distinct : (before.fields.map FieldRow.id).Nodup) : (after.fields.map FieldRow.id).Nodup := by
  induction creations with
  | none tables => exact distinct
  | next first rest ih =>
      apply ih
      cases first with
      | failed error => exact distinct
      | stored id fresh refers fits => exact Tables.nodup_append_fresh distinct fresh

theorem requested (creations : FieldCreations before requests outcomes after) :
    List.Forall₂ (fun request outcome => ∀ row, outcome = .ok row → row.request = request)
      requests outcomes := by
  induction creations with
  | none tables => exact .nil
  | next first rest ih =>
      refine .cons ?_ ih
      intro row given
      cases first with
      | failed error => cases given
      | stored id fresh refers fits =>
          cases given
          rfl

theorem storable (creations : FieldCreations before requests outcomes after) :
    ∀ field ∈ stored outcomes, after.Storable field.request := by
  induction creations with
  | none tables => exact fun _ member => absurd member List.not_mem_nil
  | next first rest ih =>
      cases first with
      | failed error => exact ih
      | stored id fresh refers fits =>
          have same := (FieldCreation.stored id fresh refers fits).same.trans rest.same
          intro field member
          rcases List.mem_cons.1 member with here | later
          · subst here
            exact same.storable ⟨refers, fits⟩
          · exact ih field later

theorem places_sublist (creations : FieldCreations before requests outcomes after) :
    ((stored outcomes).map FieldRow.place).Sublist (requests.map NewField.place) := by
  induction creations with
  | none tables => exact List.Sublist.refl _
  | next first rest ih =>
      cases first with
      | failed error => exact ih.cons _
      | stored id fresh refers fits => exact ih.cons_cons _

end FieldCreations

/-- The values that are given for a site: those of the fields of the container and measure that have
one, in ascending order of their event ruptures, which are distinct where those of the fields
are. -/
structure AnsweredAt (tables : Tables) (container measure : RecordId) (site : SiteId)
    (values : GroundMotion.SiteValues) : Prop where
  given : values.Perm ((tables.fields.filter (fun field =>
    field.container == container && field.measure == measure)).filterMap (tables.entryOf? site))
  ascending : (values.map Prod.fst).Pairwise (· ≤ ·)
  strict_iff : (values.map Prod.fst).Pairwise (· < ·) ↔
    ((tables.affecting container measure site).map FieldRow.event).Nodup

theorem Tables.Keyed.answeredAt {tables : Tables} (keyed : tables.Keyed)
    (container measure : RecordId) (site : SiteId) :
    AnsweredAt tables container measure site (tables.valuesAtSite container measure site) where
  given := keyed.valuesAtSite_perm container measure site
  ascending := keyed.events_ascending container measure site
  strict_iff := keyed.events_strict_iff container measure site

namespace FieldServer

variable {σ ε : Type} [OfFault ε] (server : FieldServer σ)

theorem run_valuesAtSite (container measure : RecordId) (site : SiteId) (state : σ) :
    ((Session.ofDialogue (Fields.valuesAtSite container measure site : Dialogue ε _)).run
      server.toServer state).result =
      .ok ((server.tables state).valuesAtSite container measure site) := by
  have answered : Fields.answeredRows container measure server.toServer site state =
      .ok ((server.tables state).fieldsAtSite container measure site) := by
    unfold Fields.answeredRows
    rw [server.site_rows]
    refine (Dialogue.decodeAll_map Fields.FieldAtSite.decode_cells _).trans ?_
    rw [List.map_id]
  exact congrArg Run.result
    (Fields.run_valuesAtSite_of_rows container measure server.toServer state answered)

end FieldServer

/-- What requests leave that come one after the other, when they gave these outcomes. -/
structure StoredInTurn (requests : List NewField) (outcomes : List (Except StoreError FieldRow))
    (tables : FieldTables) : Prop where
  fields : tables.fields = stored outcomes
  requested : List.Forall₂ (fun request outcome => ∀ row, outcome = .ok row → row.request = request)
    requests outcomes
  storable : ∀ field ∈ tables.fields, tables.Storable field.request
  identities : (tables.fields.map FieldRow.id).Nodup
  single : (requests.map NewField.place).Nodup → (tables.fields.map FieldRow.place).Nodup

/-- Requests that store fields one after the other on a server that keeps the declared constraints
leave one row for every request that succeeded. A site is answered with the values of these rows,
event rupture after event rupture; an event rupture is named once where no two rows are in one
place. Nothing else keeps rows apart: where the server refuses nothing but what the constraints
refuse, every request that succeeded would succeed again. -/
theorem fields_stored_in_turn {σ : Type} (server : FieldServer σ) (requests : List NewField)
    (state : σ) (keyed : (server.tables state).Keyed)
    (empty : (server.tables state).fields = []) :
    let outcomes := (createAll server.toServer requests state).1
    let after := (createAll server.toServer requests state).2
    StoredInTurn requests outcomes (server.tables after) ∧
      (∀ container measure site, ∃ values,
        ((Session.ofDialogue (Fields.valuesAtSite container measure site : Dialogue Fault _)).run
          server.toServer after).result = .ok values ∧
        AnsweredAt (server.tables after).toTables container measure site values ∧
        (((server.tables after).fields.map FieldRow.place).Nodup →
          (values.map Prod.fst).Pairwise (· < ·))) ∧
      ∀ room, server.Exact room → room (server.tables after) →
        ∀ field ∈ (server.tables after).fields, ∃ id,
          ((Fields.create field.request).run server.toServer after).result =
            .ok (field.request.row id) := by
  intro outcomes after
  have creations := server.createAll_creations requests state
  have fields : (server.tables after).fields = stored outcomes := by
    rw [creations.fields_eq, empty, List.nil_append]
  have identities : ((server.tables after).fields.map FieldRow.id).Nodup := by
    apply creations.identities
    rw [empty]
    exact List.nodup_nil
  have storable : ∀ field ∈ (server.tables after).fields,
      (server.tables after).Storable field.request := by
    rw [fields]
    exact creations.storable
  refine ⟨⟨fields, creations.requested, storable, identities, ?_⟩, ?_, ?_⟩
  · intro distinct
    rw [fields]
    exact distinct.sublist creations.places_sublist
  · intro container measure site
    have answered := (creations.same.keyed keyed).answeredAt container measure site
    refine ⟨_, server.run_valuesAtSite container measure site after, answered, ?_⟩
    intro distinct
    exact answered.strict_iff.2 (Tables.affecting_distinct distinct container measure site)
  · intro room exact left field there
    exact exact.create_succeeds field.request after (storable field there) left

namespace Repetition

def start : FieldStore where
  tables :=
    { ruptures := [⟨1, .zero, .zero, "Stable Continental Crust", false, none, ⟨0⟩⟩]
      events := [⟨1, 1, 1, "first", 42, ⟨0⟩⟩]
      fields := []
      containers := [⟨1, "field", ⟨0⟩⟩]
      measures := [⟨1, "PGA", "PGA", none, none⟩] }
  saved :=
    { ruptures := [], events := [], fields := [], containers := [], measures := [] }

theorem one_lt_magnitudes : 4607182418800017408 < finiteMagnitudes := by
  decide

def one : Double :=
  .finite false ⟨4607182418800017408, one_lt_magnitudes⟩

def first : NewField where
  event := 1
  container := 1
  measure := 1
  values := [.zero]

def again : NewField :=
  { first with values := [one] }

theorem fields_stored_in_turn_twice :
    let outcomes := (createAll FieldStore.server.toServer [first, again] start).1
    let after := (createAll FieldStore.server.toServer [first, again] start).2
    start.tables.Keyed ∧ start.tables.fields = [] ∧
      StoredInTurn [first, again] outcomes after.tables ∧
      AnsweredAt after.tables.toTables 1 1 0 [(1, .zero), (1, one)] ∧
      ∃ id, ((Fields.create first).run FieldStore.server.toServer after).result =
        .ok (first.row id) := by
  have keyed : start.tables.Keyed := ⟨by decide, by decide⟩
  obtain ⟨stored, answered, anew⟩ :=
    fields_stored_in_turn FieldStore.server [first, again] start keyed rfl
  obtain ⟨values, given, atSite, _⟩ := answered 1 1 0
  cases given
  refine ⟨keyed, rfl, stored, atSite, ?_⟩
  exact anew FieldStore.Room FieldStore.server_exact (by decide) (first.row 1)
    (List.mem_cons_self ..)

/-- Two requests for one event rupture, container and measure succeed, both of their fields are
stored, and a site is answered with both. -/
theorem place_filled_twice :
    let outcomes := (createAll FieldStore.server.toServer [first, again] start).1
    let after := (createAll FieldStore.server.toServer [first, again] start).2
    start.tables.fields = [] ∧ first.place = again.place ∧
      outcomes = [.ok (first.row 1), .ok (again.row 2)] ∧
      ¬(after.tables.fields.map FieldRow.place).Nodup ∧
      ∃ values, ((Session.ofDialogue (Fields.valuesAtSite 1 1 0 : Dialogue Fault _)).run
        FieldStore.server.toServer after).result = .ok values ∧
          ¬(values.map Prod.fst).Pairwise (· < ·) := by
  refine ⟨rfl, rfl, rfl, by decide, [(1, .zero), (1, one)], rfl, by decide⟩

end Repetition

end HazardStore
