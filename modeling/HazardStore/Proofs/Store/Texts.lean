import HazardStore.Proofs.Server.Effects
import HazardStore.Proofs.Session.Plans
import HazardStore.Proofs.Store.Operations
/-!
What the operations of the store send, migrations apart. Each of them is one of few routines, and the
routine alone fixes the text of every statement: what a caller brings, and what the server answered
before, reaches the server in parameters only. No text changes or removes a row of the tables that
the restricted role may only add to, and the routines that read do nothing else.
-/

namespace HazardStore

/-- The functions a client calls, without what it brings to them. -/
inductive Routine where
  | checkHealth
  | listMeasures
  | measureById
  | measureByText
  | findMeasure
  | registerMeasure
  | createContainer
  | containerById
  | deleteContainer
  | createRupture
  | ruptureById
  | setSites
  | deleteRupture
  | createEvent
  | eventById
  | deleteEvent
  | createField
  | fieldById
  | fieldsInContainer
  | fieldsOfEvent
  | valuesAtSite
  | valuesAtSites
  | seed
  | verify
  | migrationStatus
deriving DecidableEq

/-- Migrations, and the commands of the program, are no routines of the store. -/
def Operation.routine? : Operation → Option Routine
  | .checkHealth => some .checkHealth
  | .listMeasures => some .listMeasures
  | .measureById _ => some .measureById
  | .measureByText _ => some .measureByText
  | .findMeasure _ => some .findMeasure
  | .registerMeasure _ => some .registerMeasure
  | .createContainer _ => some .createContainer
  | .containerById _ => some .containerById
  | .deleteContainer _ => some .deleteContainer
  | .createRupture _ => some .createRupture
  | .ruptureById _ => some .ruptureById
  | .setSites _ _ => some .setSites
  | .deleteRupture _ => some .deleteRupture
  | .createEvent _ => some .createEvent
  | .eventById _ => some .eventById
  | .deleteEvent _ => some .deleteEvent
  | .createField _ => some .createField
  | .fieldById _ => some .fieldById
  | .fieldsInContainer _ => some .fieldsInContainer
  | .fieldsOfEvent _ => some .fieldsOfEvent
  | .valuesAtSite _ _ _ => some .valuesAtSite
  | .valuesAtSites _ _ _ => some .valuesAtSites
  | .seed => some .seed
  | .verify => some .verify
  | .migrationStatus => some .migrationStatus
  | .migrate => none
  | .command _ => none

namespace Routine

/-- What verification asks at a step: for the tables, for their columns and constraints, for the
rows of measures, and for the role and its privileges. -/
def verifyForm (step : Nat) : Statement :=
  if step < 3 then .relationExists ""
  else if step < 9 then
    match step with
    | 3 => .sitesColumn
    | 4 => .fieldCascades
    | 5 => .measureChecks
    | 6 => .measureIndexExists ""
    | 7 => .presenceViolations
    | _ => .duplicateMeasures
  else if step < 16 then .referenceExists ⟨"", "", none, none⟩
  else if step = 16 then .roleExists ""
  else .privileges "" "" ""

theorem verifyForm_of_relation {step : Nat} (relation : step < 3) :
    verifyForm step = .relationExists "" :=
  if_pos relation

theorem verifyForm_of_reference {step : Nat} (after : 9 ≤ step) (before : step < 16) :
    verifyForm step = .referenceExists ⟨"", "", none, none⟩ := by
  unfold verifyForm
  rw [if_neg (by omega), if_neg (by omega), if_pos before]

theorem verifyForm_of_privileges {step : Nat} (after : 16 < step) :
    verifyForm step = .privileges "" "" "" := by
  unfold verifyForm
  rw [if_neg (by omega), if_neg (by omega), if_neg (by omega), if_neg (by omega)]

/-- The statement that a routine sends at a step, with nothing filled in. -/
def form : Routine → Nat → Statement
  | .checkHealth, _ => .ping
  | .listMeasures, _ => .listMeasures
  | .measureById, _ => .measureById 0
  | .measureByText, _ => .measureByComponents "" none none
  | .findMeasure, _ => .measureByComponents "" none none
  | .registerMeasure, 1 => .registerMeasure "" "" none none
  | .registerMeasure, _ => .measureByComponents "" none none
  | .createContainer, _ => .insertContainer ⟨""⟩
  | .containerById, _ => .containerById 0
  | .deleteContainer, _ => .deleteContainer 0
  | .createRupture, _ => .insertRupture ⟨.zero, .zero, "", none, none⟩
  | .ruptureById, _ => .ruptureById 0
  | .setSites, 0 => .lockSites 0
  | .setSites, 1 => .countFields 0
  | .setSites, _ => .updateSites 0 []
  | .deleteRupture, _ => .deleteRupture 0
  | .createEvent, _ => .insertEvent ⟨0, 0, "", 0⟩
  | .eventById, _ => .eventById 0
  | .deleteEvent, _ => .deleteEvent 0
  | .createField, 0 => .shareSites 0
  | .createField, _ => .insertField ⟨0, 0, 0, []⟩
  | .fieldById, _ => .fieldById 0
  | .fieldsInContainer, _ => .fieldsOfContainer 0
  | .fieldsOfEvent, _ => .fieldsOfEvent 0
  | .valuesAtSite, _ => .fieldsAtSite 0 0 0
  | .valuesAtSites, _ => .fieldsAtSite 0 0 0
  | .seed, _ => .seedMeasure ⟨"", "", none, none⟩
  | .verify, step => verifyForm step
  | .migrationStatus, 0 => .historyExists
  | .migrationStatus, _ => .history

def plan (routine : Routine) : Plan :=
  fun step => (routine.form step).text

def isReader : Routine → Bool
  | .registerMeasure => false
  | .createContainer => false
  | .deleteContainer => false
  | .createRupture => false
  | .setSites => false
  | .deleteRupture => false
  | .createEvent => false
  | .deleteEvent => false
  | .createField => false
  | .seed => false
  | _ => true

theorem effect_verifyForm (step : Nat) : (verifyForm step).effect = .reads := by
  unfold verifyForm
  split
  · rfl
  split
  · split <;> rfl
  split
  · rfl
  split <;> rfl

theorem effect_form_of_reader {routine : Routine} (reader : routine.isReader = true) (step : Nat) :
    (routine.form step).effect = .reads := by
  cases routine
  case verify => exact effect_verifyForm step
  case migrationStatus => cases step <;> rfl
  all_goals first | rfl | cases reader

/-- The tables that the restricted role may read and add to. -/
def guarded : List String :=
  Schema.guardedTables.map Schema.GuardedTable.table

theorem spares_form (routine : Routine) (step : Nat) :
    (routine.form step).effect.Spares guarded := by
  have container : "hzrdr.gmf" ∉ guarded := by decide
  have rupture : "hzrdr.probabilistic_rupture" ∉ guarded := by decide
  have event : "hzrdr.ses_rupture" ∉ guarded := by decide
  cases routine
  case registerMeasure =>
    match step with
    | 0 => trivial
    | 1 => trivial
    | _ + 2 => trivial
  case setSites =>
    match step with
    | 0 => trivial
    | 1 => trivial
    | _ + 2 => exact rupture
  case createField => cases step <;> trivial
  case migrationStatus => cases step <;> trivial
  case verify =>
    change (verifyForm step).effect.Spares guarded
    rw [effect_verifyForm]
    trivial
  case deleteContainer => exact container
  case deleteRupture => exact rupture
  case deleteEvent => exact event
  all_goals trivial

example : ¬(Effect.ofText "DELETE FROM hzrdr.imt WHERE id = $1").Spares guarded := by
  decide +kernel

end Routine

/-! ### The operations follow the plans -/

namespace Dialogue.Follows

variable {ε : Type} [OfFault ε] {plan : Plan} {ends : Nat → Prop} {step : Nat}

theorem register (measure : Measure) :
    (Measures.register measure).Follows Routine.registerMeasure.plan (fun _ => True) 0 := by
  refine bind_at (first? _ rfl rfl) (fun found => ?_)
  cases found with
  | some row => trivial
  | none =>
      refine bind_at (first? _ rfl rfl) (fun inserted => ?_)
      cases inserted with
      | some row => trivial
      | none =>
          refine bind_at (first? _ rfl rfl) (fun foundAgain => ?_)
          cases foundAgain <;> trivial

theorem assignSites (rupture : RecordId) (sites : List SiteId) :
    (Ruptures.assignSites rupture sites).Follows Routine.setSites.plan (fun _ => True) 0 := by
  refine bind_at (first? _ rfl rfl) (fun held => ?_)
  match held with
  | none => trivial
  | some (some present) => trivial
  | some none =>
      refine bind_at (first _ rfl rfl) (fun stored => ?_)
      split
      · trivial
      · exact bind_at (first _ rfl rfl) (fun row => trivial)

theorem store (request : NewField) :
    (Fields.store request).Follows Routine.createField.plan (fun _ => True) 0 :=
  bind_at (first? _ rfl rfl) fun _ =>
    bind_at (ofExcept _ rfl) fun _ => bind_at (first _ rfl rfl) fun _ => trivial

theorem valuesAtSite (container measure : RecordId) (site : SiteId)
    (here : (Statement.fieldsAtSite container measure site).text = plan step) :
    (Fields.valuesAtSite container measure site : Dialogue ε _).Follows plan (fun _ => True)
      step := by
  refine bind_at (all _ here rfl) (fun fields => ?_)
  dsimp only
  split <;> trivial

theorem collect (container measure : RecordId) (sites : List SiteId) :
    (Fields.collect container measure sites : Dialogue ε _).Follows Routine.valuesAtSites.plan
      (fun _ => True) step := by
  induction sites generalizing step with
  | nil => trivial
  | cons site sites ih =>
      refine bind (valuesAtSite container measure site rfl) (fun values now _ => ?_)
      exact bind ih (fun others now _ => trivial)

theorem insertAll (references : List ReferenceMeasure) :
    (Seeding.insertAll references : Dialogue ε Nat).Follows Routine.seed.plan (fun _ => True)
      step := by
  induction references generalizing step with
  | nil => trivial
  | cons reference others ih =>
      refine bind_at (count rfl rfl) (fun added => ?_)
      exact bind ih (fun more now _ => trivial)

theorem records :
    (Migration.records : Dialogue ε _).Follows Routine.migrationStatus.plan (fun _ => True) 0 := by
  refine bind_at (first _ rfl rfl) (fun there => ?_)
  cases there with
  | false => trivial
  | true => exact all _ rfl trivial

-- The checks come one after the other: each begins at the step at which the one before it ends.

open Schema

omit [OfFault ε] in
theorem gather {α : Type} {check : α → Dialogue ε (List SchemaProblem)} (subjects : List α)
    (each : ∀ subject now, step ≤ now → now < step + subjects.length →
      (check subject).Follows plan (· = now + 1) now)
    (last : ends (step + subjects.length)) :
    (Schema.gather check subjects).Follows plan ends step := by
  induction subjects generalizing step with
  | nil => exact last
  | cons subject others ih =>
      have count : step + (subject :: others).length = step + 1 + others.length := by
        rw [List.length_cons]
        omega
      rw [count] at each last
      refine bind_at (each subject step (Nat.le_refl _) (by omega)) (fun found => ?_)
      refine bind (ih (fun one now after before => ?_) last) (fun more now ended => ended)
      exact each one now (by omega) before

theorem checkRelations :
    (checkRelations : Dialogue ε _).Follows Routine.verify.plan (· = 3) 0 := by
  refine bind_at (gather requiredTables (fun table now _ before => ?_) rfl) (fun missing => ?_)
  · have relation : now < 3 := Nat.lt_trans before (by decide)
    refine bind_at (first _ ?_ rfl) (fun there => rfl)
    exact (congrArg Statement.text (Routine.verifyForm_of_relation relation)).symm
  · exact bind_at (first _ rfl rfl) (fun there => rfl)

theorem checkMeasureConstraints :
    (checkMeasureConstraints : Dialogue ε _).Follows Routine.verify.plan (· = 7) 5 :=
  bind_at (all _ rfl rfl) fun _ => bind_at (first _ rfl rfl) fun _ => rfl

theorem checkMeasureRows :
    (checkMeasureRows : Dialogue ε _).Follows Routine.verify.plan (· = 16) 7 := by
  refine bind_at (first _ rfl rfl) (fun violations => ?_)
  refine bind_at (all _ rfl rfl) (fun groups => ?_)
  refine bind_at (gather ReferenceMeasure.seeds (fun reference now after before => ?_) rfl)
    (fun absent => rfl)
  refine bind_at (first _ ?_ rfl) (fun there => rfl)
  exact (congrArg Statement.text (Routine.verifyForm_of_reference after before)).symm

theorem checkPrivileges :
    (checkPrivileges : Dialogue ε _).Follows Routine.verify.plan (fun _ => True) 16 := by
  refine bind_at (first _ rfl rfl) (fun there => ?_)
  cases there with
  | false => trivial
  | true =>
      refine gather guardedTables (fun guarded now after before => ?_) trivial
      refine bind_at (first _ ?_ rfl) (fun privileges => rfl)
      exact (congrArg Statement.text (Routine.verifyForm_of_privileges after)).symm

theorem checkContent :
    (checkContent : Dialogue ε _).Follows Routine.verify.plan (fun _ => True) 3 := by
  refine bind_at (bind_at (first? _ rfl rfl) fun column => rfl) (fun column => ?_)
  refine bind_at (bind_at (all _ rfl rfl) fun parents => rfl) (fun cascades => ?_)
  refine bind_at checkMeasureConstraints (fun constraints => ?_)
  refine bind_at checkMeasureRows (fun rows => ?_)
  exact bind checkPrivileges (fun privileges now _ => trivial)

theorem verify :
    (verify : Dialogue ε _).Follows Routine.verify.plan (fun _ => True) 0 := by
  refine bind_at checkRelations (fun relations => ?_)
  split
  · trivial
  · exact bind checkContent (fun problems now _ => trivial)

end Dialogue.Follows

theorem Session.Follows.operation (operation : Operation) (routine : Routine)
    (same : operation.routine? = some routine) : operation.session.Follows routine.plan 0 := by
  cases operation <;> cases same
  case checkHealth =>
    exact ofDialogue (Dialogue.Follows.bind_at (.send rfl rfl) fun _ => trivial)
  case listMeasures => exact ofDialogue (.all _ rfl trivial)
  case measureById id => exact ofDialogue (.first? _ rfl trivial)
  case measureByText text =>
    exact ofDialogue (Dialogue.Follows.bind_at (.ofExcept _ rfl) fun _ => .first? _ rfl trivial)
  case findMeasure measure => exact ofDialogue (.first? _ rfl trivial)
  case registerMeasure measure => exact ofDialogue (.register measure)
  case createContainer request => exact ofDialogue (.first _ rfl trivial)
  case containerById id => exact ofDialogue (.first? _ rfl trivial)
  case deleteContainer id =>
    exact ofDialogue (Dialogue.Follows.bind_at (.count rfl rfl) fun _ => trivial)
  case createRupture request =>
    exact ofDialogue (Dialogue.Follows.bind_at (.ofExcept _ rfl) fun _ => .first _ rfl trivial)
  case ruptureById id => exact ofDialogue (.first? _ rfl trivial)
  case setSites rupture sites =>
    change (Ruptures.setSites rupture sites).Follows _ 0
    unfold Ruptures.setSites
    cases GroundMotion.checkSites sites with
    | error violation => trivial
    | ok => exact bracket (.assignSites rupture sites)
  case deleteRupture id =>
    exact ofDialogue (Dialogue.Follows.bind_at (.count rfl rfl) fun _ => trivial)
  case createEvent request => exact ofDialogue (.first _ rfl trivial)
  case eventById id => exact ofDialogue (.first? _ rfl trivial)
  case deleteEvent id =>
    exact ofDialogue (Dialogue.Follows.bind_at (.count rfl rfl) fun _ => trivial)
  case createField request => exact bracket (.store request)
  case fieldById id => exact ofDialogue (.first? _ rfl trivial)
  case fieldsInContainer container => exact ofDialogue (.all _ rfl trivial)
  case fieldsOfEvent event => exact ofDialogue (.all _ rfl trivial)
  case valuesAtSite container measure site =>
    exact ofDialogue (.valuesAtSite container measure site rfl)
  case valuesAtSites container measure sites =>
    exact ofDialogue (Dialogue.Follows.bind (.collect container measure sites) fun _ _ _ => trivial)
  case seed =>
    refine bind (bracket ?_) (fun inserted now => trivial)
    exact Dialogue.Follows.bind (.insertAll ReferenceMeasure.seeds) fun _ _ _ => trivial
  case verify => exact ofDialogue .verify
  case migrationStatus =>
    exact ofDialogue (Dialogue.Follows.bind .records fun _ _ _ => trivial)

namespace Operation

variable {σ τ : Type}

theorem effect_of_control {move : Move} {text : String} (controls : move.control? = some text) :
    Effect.ofText text = .controls := by
  cases move <;> cases controls <;> decide +kernel

theorem session_of_reader (operation : Operation) (routine : Routine)
    (same : operation.routine? = some routine) (reader : routine.isReader = true) :
    ∃ dialogue, operation.session = Session.ofDialogue dialogue := by
  cases operation <;> cases same <;> first | exact ⟨_, rfl⟩ | cases reader

variable {operation : Operation} {routine : Routine}

theorem message_spares (same : operation.routine? = some routine) (server : Server σ) (state : σ)
    (message : Message) (sent : message ∈ messages (operation.session.run server state).trace) :
    (Effect.ofText message.text).Spares Routine.guarded := by
  have follows := Session.Follows.operation operation routine same
  rcases follows.text_of_message server state message sent with ⟨now, planned⟩ | ⟨_, _, controls⟩
  · rw [planned, Routine.plan, Effect.ofText_statement]
    exact Routine.spares_form routine now
  · rw [effect_of_control controls]
    trivial

theorem move_of_reader (same : operation.routine? = some routine) (reader : routine.isReader = true)
    (server : Server σ) (state : σ) (move : Move)
    (taken : move ∈ moves (operation.session.run server state).trace) : move = .question := by
  obtain ⟨dialogue, bare⟩ := session_of_reader operation routine same reader
  rw [bare] at taken
  exact Session.moves_ofDialogue dialogue server state move taken

theorem message_of_reader (same : operation.routine? = some routine)
    (reader : routine.isReader = true) (server : Server σ) (state : σ) (message : Message)
    (sent : message ∈ messages (operation.session.run server state).trace) :
    Effect.ofText message.text = .reads := by
  have follows := Session.Follows.operation operation routine same
  rcases follows.text_of_message server state message sent with
    ⟨now, planned⟩ | ⟨move, taken, controls⟩
  · rw [planned, Routine.plan, Effect.ofText_statement]
    exact Routine.effect_form_of_reader reader now
  · rw [move_of_reader same reader server state move taken] at controls
    cases controls

theorem not_began_of_reader (same : operation.routine? = some routine)
    (reader : routine.isReader = true) (server : Server σ) (state : σ) (opened : Bool) :
    .began opened ∉ (operation.session.run server state).trace := by
  intro began
  have taken : .opening opened ∈ moves (operation.session.run server state).trace :=
    List.mem_filterMap.2 ⟨.began opened, began, rfl⟩
  cases move_of_reader same reader server state _ taken

/-- The text of each statement of a call is fixed by the routine and the number of statements before
it. Calls of one routine that go the same way, on whatever servers and with whatever arguments, send
the same texts, so that they differ in parameters only. No text changes or removes a row of a guarded
table or a definition; a routine that reads sends selections only and begins no transaction. -/
theorem texts_fixed (server : Server σ) (state : σ) (operations : List Operation)
    (other : Server τ) (start : τ) (others : List Operation) :
    ∀ call ∈ conduct server operations state, ∀ routine, call.operation.routine? = some routine →
      (∀ step statement, (asked call.run.trace)[step]? = some statement →
        statement.text = routine.plan step) ∧
      (∀ twin ∈ conduct other others start, twin.operation.routine? = some routine →
        moves twin.run.trace = moves call.run.trace →
          (messages twin.run.trace).map Message.text =
            (messages call.run.trace).map Message.text) ∧
      (∀ message ∈ messages call.run.trace,
        (Effect.ofText message.text).Spares Routine.guarded) ∧
      (routine.isReader = true →
        (∀ message ∈ messages call.run.trace, Effect.ofText message.text = .reads) ∧
          ∀ opened, .began opened ∉ call.run.trace) := by
  intro call member routine same
  obtain ⟨here, ran⟩ := run_of_mem_conduct server operations state call member
  have follows := Session.Follows.operation call.operation routine same
  rw [ran]
  refine ⟨?_, ?_, message_spares same server here, ?_⟩
  · intro step statement sent
    have text := follows.text_of_asked server here step statement sent
    rwa [Nat.zero_add] at text
  · intro twin twinMember twinSame alike
    obtain ⟨there, twinRan⟩ := run_of_mem_conduct other others start twin twinMember
    have twinFollows := Session.Follows.operation twin.operation routine twinSame
    rw [twinRan] at alike ⊢
    rw [twinFollows.texts_eq other there, alike, follows.texts_eq server here]
  · intro reader
    exact ⟨message_of_reader same reader server here, not_began_of_reader same reader server here⟩

def widerField : NewField where
  event := 2
  container := 3
  measure := 4
  values := [.zero, .zero]

theorem texts_fixed_two_fields :
    ∃ call ∈ conduct (Server.scripted ⟨none, none⟩) [.createField unkeptField] unkeptScript,
    ∃ twin ∈ conduct (Server.scripted ⟨none, none⟩) [.createField widerField] unkeptScript,
    ∃ reading ∈ conduct (Server.scripted ⟨none, none⟩) [.fieldById 7] unkeptScript,
      messages twin.run.trace ≠ messages call.run.trace ∧
      (messages twin.run.trace).map Message.text = (messages call.run.trace).map Message.text ∧
      (asked call.run.trace)[1]? = some (.insertField unkeptField) ∧
      (Statement.insertField unkeptField).text = Routine.createField.plan 1 ∧
      ⟨"BEGIN", []⟩ ∈ messages call.run.trace ∧
      (Effect.ofText "BEGIN").Spares Routine.guarded ∧
      ⟨(Statement.fieldById 7).text, [.row 7]⟩ ∈ messages reading.run.trace ∧
      Effect.ofText (Statement.fieldById 7).text = .reads := by
  refine ⟨_, List.mem_cons_self .., _, List.mem_cons_self .., _, List.mem_cons_self .., ?_⟩
  obtain ⟨planned, same, spared, _⟩ := texts_fixed (Server.scripted ⟨none, none⟩) unkeptScript
    [.createField unkeptField] (Server.scripted ⟨none, none⟩) unkeptScript [.createField widerField]
    _ (List.mem_cons_self ..) .createField rfl
  obtain ⟨_, _, _, reader⟩ := texts_fixed (Server.scripted ⟨none, none⟩) unkeptScript
    [.fieldById 7] (Server.scripted ⟨none, none⟩) unkeptScript []
    _ (List.mem_cons_self ..) .fieldById rfl
  have began : (⟨"BEGIN", []⟩ : Message) ∈ messages
      ((Fields.create unkeptField).run (Server.scripted ⟨none, none⟩) unkeptScript).trace :=
    List.mem_cons_self ..
  have selected : (⟨(Statement.fieldById 7).text, [.row 7]⟩ : Message) ∈ messages
      ((Operation.fieldById 7).session.run (Server.scripted ⟨none, none⟩) unkeptScript).trace :=
    List.mem_cons_self ..
  refine ⟨?_, same _ (List.mem_cons_self ..) rfl rfl, rfl, planned 1 _ rfl, began,
    spared _ began, selected, (reader rfl).1 _ selected⟩
  intro alike
  cases congrArg (fun sent => (sent[1]?).map Message.parameters) alike

end Operation

end HazardStore
