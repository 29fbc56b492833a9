import HazardStore.Program.Command
import HazardStore.Proofs.Session.Transactions
import HazardStore.Session.Script
import HazardStore.Store.Containers
import HazardStore.Store.Events
import HazardStore.Store.Fields
import HazardStore.Store.Health
import HazardStore.Store.Measures
import HazardStore.Store.Ruptures
/-!
All that a client can ask for, and what becomes of the transactions in it. Three operations write in
a transaction of their own; each keeps its work exactly when it succeeds with something, and takes it
back in every other case. No operation leaves the connection inside a transaction, so that any
number of them can follow one another on one connection.
-/

namespace HazardStore

inductive Operation where
  | checkHealth
  | listMeasures
  | measureById (id : RecordId)
  | measureByText (text : String)
  | findMeasure (measure : Measure)
  | registerMeasure (measure : Measure)
  | createContainer (request : NewContainer)
  | containerById (id : RecordId)
  | deleteContainer (id : RecordId)
  | createRupture (request : NewRupture)
  | ruptureById (id : RecordId)
  | setSites (rupture : RecordId) (sites : List SiteId)
  | deleteRupture (id : RecordId)
  | createEvent (request : NewEvent)
  | eventById (id : RecordId)
  | deleteEvent (id : RecordId)
  | createField (request : NewField)
  | fieldById (id : RecordId)
  | fieldsInContainer (container : RecordId)
  | fieldsOfEvent (event : RecordId)
  | valuesAtSite (container measure : RecordId) (site : SiteId)
  | valuesAtSites (container measure : RecordId) (sites : List SiteId)
  | seed
  | verify
  | migrationStatus
  | migrate
  | command (task : Command)
deriving DecidableEq

namespace Operation

abbrev Error : Operation → Type
  | .measureByText _ => StoreError
  | .registerMeasure _ => StoreError
  | .createRupture _ => StoreError
  | .setSites _ _ => StoreError
  | .createField _ => StoreError
  | .migrate => MigrationError
  | .command _ => CommandFailure
  | _ => Fault

abbrev Value : Operation → Type
  | .checkHealth => Unit
  | .listMeasures => List MeasureRow
  | .measureById _ => Option MeasureRow
  | .measureByText _ => Option MeasureRow
  | .findMeasure _ => Option MeasureRow
  | .registerMeasure _ => MeasureRow
  | .createContainer _ => ContainerRow
  | .containerById _ => Option ContainerRow
  | .deleteContainer _ => Bool
  | .createRupture _ => RuptureRow
  | .ruptureById _ => Option RuptureRow
  | .setSites _ _ => Option RuptureRow
  | .deleteRupture _ => Bool
  | .createEvent _ => EventRow
  | .eventById _ => Option EventRow
  | .deleteEvent _ => Bool
  | .createField _ => FieldRow
  | .fieldById _ => Option FieldRow
  | .fieldsInContainer _ => List FieldRow
  | .fieldsOfEvent _ => List FieldRow
  | .valuesAtSite _ _ _ => GroundMotion.SiteValues
  | .valuesAtSites _ _ _ => GroundMotion.AlignedField
  | .seed => Nat
  | .verify => List SchemaProblem
  | .migrationStatus => List MigrationStatus
  | .migrate => Unit
  | .command _ => String

def session : (operation : Operation) → Session operation.Error operation.Value
  | .checkHealth => Session.ofDialogue Store.healthCheck
  | .listMeasures => Session.ofDialogue Measures.list
  | .measureById id => Session.ofDialogue (Measures.byId? id)
  | .measureByText text => Session.ofDialogue (Measures.findText? text)
  | .findMeasure measure => Session.ofDialogue (Measures.find? measure)
  | .registerMeasure measure => Session.ofDialogue (Measures.register measure)
  | .createContainer request => Session.ofDialogue (Containers.create request)
  | .containerById id => Session.ofDialogue (Containers.byId? id)
  | .deleteContainer id => Session.ofDialogue (Containers.delete id)
  | .createRupture request => Session.ofDialogue (Ruptures.create request)
  | .ruptureById id => Session.ofDialogue (Ruptures.byId? id)
  | .setSites rupture sites => Ruptures.setSites rupture sites
  | .deleteRupture id => Session.ofDialogue (Ruptures.delete id)
  | .createEvent request => Session.ofDialogue (Events.create request)
  | .eventById id => Session.ofDialogue (Events.byId? id)
  | .deleteEvent id => Session.ofDialogue (Events.delete id)
  | .createField request => Fields.create request
  | .fieldById id => Session.ofDialogue (Fields.byId? id)
  | .fieldsInContainer container => Session.ofDialogue (Fields.inContainer container)
  | .fieldsOfEvent event => Session.ofDialogue (Fields.ofEvent event)
  | .valuesAtSite container measure site =>
      Session.ofDialogue (Fields.valuesAtSite container measure site)
  | .valuesAtSites container measure sites =>
      Session.ofDialogue (Fields.valuesAtSites container measure sites)
  | .seed => Seeding.seed
  | .verify => Session.ofDialogue Schema.verify
  | .migrationStatus => Session.ofDialogue Migration.status
  | .migrate => Migration.migrate
  | .command task => task.session

structure Conducted (σ : Type) where
  operation : Operation
  run : Run σ operation.Error operation.Value

def conduct {σ : Type} (server : Server σ) : List Operation → σ → List (Conducted σ)
  | [], _ => []
  | operation :: others, state =>
      let run := operation.session.run server state
      ⟨operation, run⟩ :: conduct server others run.state

def traceOf {σ : Type} (conducted : List (Conducted σ)) : List Event :=
  conducted.flatMap (fun one => one.run.trace)

/-! ### No operation stays inside a transaction -/

end Operation

namespace Session.Orderly

open Migration

theorem setSites (rupture : RecordId) (sites : List SiteId) :
    (Ruptures.setSites rupture sites).Orderly false := by
  unfold Ruptures.setSites
  cases GroundMotion.checkSites sites with
  | error violation => rfl
  | ok => exact bracket _

theorem seed {ε : Type} [OfFault ε] : (Seeding.seed : Session ε Nat).Orderly false :=
  bind (bracket _) (fun _ => rfl)

theorem applyAll (recorded : List RecordedChecksum) (migrations : List Migration) :
    (Migration.applyAll recorded migrations).Orderly false := by
  induction migrations with
  | nil => rfl
  | cons migration others ih =>
      unfold Migration.applyAll
      cases recordedFor? recorded migration.version with
      | none => exact bind (bracket _) (fun _ => ih)
      | some checksum =>
          by_cases known : checksum.isKnown = true
          · simp only [known, if_true]
            exact ih
          · simp only [known]
            rfl

theorem migrate : Migration.migrate.Orderly false := by
  apply bind (ofDialogue _)
  intro records
  dsimp only
  split
  · rfl
  · refine bind (ofDialogue _) (fun _ => bind ?_ (fun _ => rfl))
    exact bind (ofDialogue _) (fun recorded => applyAll recorded known)

theorem command (task : Command) : task.session.Orderly false := by
  cases task with
  | run => exact mapError _ (bind migrate (fun _ => rfl))
  | status json => exact mapError _ (ofDialogue _)
  | seed => exact mapError _ (bind seed (fun _ => rfl))
  | verify =>
      apply bind (mapError _ (ofDialogue _))
      intro problems
      cases problems with
      | nil => rfl
      | cons problem others => rfl

theorem operation (operation : Operation) : operation.session.Orderly false := by
  cases operation with
  | setSites rupture sites => exact setSites rupture sites
  | createField request => exact bracket _
  | seed => exact seed
  | migrate => exact migrate
  | command task => exact command task
  | _ => exact ofDialogue _

end Session.Orderly

namespace Operation

/-- The operations that write in a transaction of their own. -/
def transacts : Operation → Bool
  | .setSites _ _ => true
  | .createField _ => true
  | .seed => true
  | _ => false

/-- The values that stand for work that was kept: only site indices may be left as they are. -/
def Lasting : (operation : Operation) → operation.Value → Prop
  | .setSites _ _, row? => row?.isSome = true
  | _, _ => True

end Operation

namespace Session.Transacts

theorem setSites (rupture : RecordId) (sites : List SiteId) :
    (Ruptures.setSites rupture sites).Transacts (fun row? => row?.isSome = true) := by
  unfold Ruptures.setSites
  cases GroundMotion.checkSites sites with
  | error violation => exact fail _
  | ok =>
      apply bracket
      apply Dialogue.Returns.bind
      intro held
      have discards : ¬(none : Option RuptureRow).isSome = true := Bool.false_ne_true
      match held with
      | none => exact discards
      | some (some present) => exact discards
      | some none =>
          apply Dialogue.Returns.bind
          intro stored
          split
          · trivial
          · exact Dialogue.Returns.bind (fun row => rfl)

theorem createField (request : NewField) :
    (Fields.create request).Transacts (fun _ => True) := by
  apply bracket
  apply Dialogue.Returns.bind
  intro sites?
  apply Dialogue.Returns.bind
  intro checked
  exact Dialogue.Returns.bind (fun row => trivial)

theorem seed {ε : Type} [OfFault ε] : (Seeding.seed : Session ε Nat).Transacts (fun _ => True) := by
  refine noted (bracket _ ?_)
    (fun inserted => .measuresSeeded inserted ReferenceMeasure.seeds.length)
  apply Dialogue.Returns.bind
  intro inserted
  trivial

theorem operation (operation : Operation) (transacts : operation.transacts = true) :
    operation.session.Transacts operation.Lasting := by
  cases operation with
  | setSites rupture sites => exact setSites rupture sites
  | createField request => exact createField request
  | seed => exact seed
  | _ => cases transacts

end Session.Transacts

namespace Operation

variable {σ : Type}

theorem run_of_mem_conduct (server : Server σ) (operations : List Operation) (state : σ)
    (conducted : Conducted σ) (member : conducted ∈ conduct server operations state) :
    ∃ here, conducted.run = conducted.operation.session.run server here := by
  induction operations generalizing state with
  | nil => cases member
  | cons operation others ih =>
      rcases List.mem_cons.1 member with first | later
      · rw [first]
        exact ⟨state, rfl⟩
      · exact ih _ later

theorem after?_traceOf (server : Server σ) (operations : List Operation) (state : σ) (count : Nat) :
    after? false (traceOf ((conduct server operations state).take count)) = some false := by
  induction operations generalizing state count with
  | nil =>
      rw [conduct, List.take_nil]
      rfl
  | cons operation others ih =>
      cases count with
      | zero => rfl
      | succ count =>
          have first := (Session.Orderly.operation operation).after?_trace server state
          simp only [conduct, List.take_succ_cons, traceOf, List.flatMap_cons, after?_append, first,
            Option.bind_some]
          exact ih _ count

/-- Of operations on one connection, each that writes in a transaction of its own runs one of the
courses. It kept its work exactly when it succeeded with something; when it failed, or left site
indices as they were, a transaction that was opened was rolled back. After each operation the
connection is outside a transaction. -/
theorem transactions_end (server : Server σ) (state : σ) (operations : List Operation) :
    (∀ conducted ∈ conduct server operations state, conducted.operation.transacts = true →
      ∃ course : Course, said conducted.run.trace = course.events ∧
        ((∃ statements, course = .kept statements) ↔
          ∃ value, conducted.run.result = .ok value ∧ conducted.operation.Lasting value) ∧
        (∀ error, conducted.run.result = .error error → course = .silent ∨ course = .unopened ∨
          ∃ statements, course = .undone statements ∨ course = .refused statements) ∧
        (∀ value, conducted.run.result = .ok value → ¬conducted.operation.Lasting value →
          ∃ statements, course = .undone statements)) ∧
    (∀ count, after? false (traceOf ((conduct server operations state).take count)) =
      some false) := by
  refine ⟨?_, after?_traceOf server operations state⟩
  intro conducted member transacts
  obtain ⟨here, ran⟩ := run_of_mem_conduct server operations state conducted member
  obtain ⟨course, events, tells⟩ :=
    Session.Transacts.operation conducted.operation transacts server here
  rw [← ran] at events tells
  exact ⟨course, events, tells.kept_iff, tells.of_error, tells.undone_of_fleeting⟩

def unkeptField : NewField where
  event := 1
  container := 1
  measure := 1
  values := [.zero]

/-- Answers to what storing a field sends, until the commit. -/
def unkeptScript : List ScriptEntry :=
  [fun
    | .shareSites _ => .ok (.rows [(none, ())])
    | _ => .error Server.exhausted,
  fun
    | .insertField request => .ok (.rows [(some (1 : RecordId), some request.event,
        some request.container, some request.measure,
        some (request.values.map some), ())])
    | _ => .error Server.exhausted]

/-- A field whose commit is refused is rolled back, and storing it fails. -/
theorem transactions_end_refused :
    ∃ conducted ∈ conduct (Server.scripted ⟨none, some Server.exhausted⟩)
        [.createField unkeptField] unkeptScript,
      conducted.operation.transacts = true ∧
      said conducted.run.trace =
        (Course.refused [.shareSites 1, .insertField unkeptField]).events ∧
      ∃ course : Course, said conducted.run.trace = course.events ∧
        ¬∃ statements, course = .kept statements := by
  refine ⟨_, List.mem_cons_self .., rfl, rfl, ?_⟩
  obtain ⟨course, events, kept, _⟩ := (transactions_end
    (Server.scripted ⟨none, some Server.exhausted⟩) unkeptScript [.createField unkeptField]).1
    _ (List.mem_cons_self ..) rfl
  refine ⟨course, events, ?_⟩
  intro wasKept
  obtain ⟨value, impossible, _⟩ := kept.1 wasKept
  cases impossible

end Operation

end HazardStore
