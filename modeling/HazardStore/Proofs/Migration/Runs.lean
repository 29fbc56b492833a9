import Mathlib.Data.List.Nodup
import HazardStore.Migration.Migrator
import HazardStore.Proofs.Session.Runs
/-!
Runs of the migrator, and the run that decides whether there is anything for it to do. Bringing the
schema up to date ends after its records when none is pending; otherwise it is the run of the
migrator with notes around it. What a trace applies are the migrations whose transaction it commits.
-/

namespace HazardStore

def Statement.applies? : Statement → Option Migration
  | .applyMigration migration => some migration
  | _ => none

/-- The migrations that a trace commits, when the open transaction has already applied one. -/
def appliedIn (open? : Option Migration) : List Event → List Migration
  | [] => []
  | .sent statement :: rest => appliedIn (statement.applies?.or open?) rest
  | .noted _ :: rest => appliedIn open? rest
  | .began _ :: rest => appliedIn none rest
  | .committed true :: rest => open?.toList ++ appliedIn none rest
  | .committed false :: rest => appliedIn open? rest
  | .rolledBack :: rest => appliedIn none rest

def applied (trace : List Event) : List Migration :=
  appliedIn none trace

/-- Events that neither apply a migration nor control a transaction. -/
def Event.isQuiet : Event → Bool
  | .sent statement => statement.applies?.isNone
  | .noted _ => true
  | _ => false

section Quiet

variable {quiet : List Event}

theorem appliedIn_quiet_append (open? : Option Migration)
    (allQuiet : ∀ event ∈ quiet, event.isQuiet = true) (rest : List Event) :
    appliedIn open? (quiet ++ rest) = appliedIn open? rest := by
  induction quiet with
  | nil => rfl
  | cons event others ih =>
      have later := ih (fun other member => allQuiet other (List.mem_cons_of_mem _ member))
      have here := allQuiet event (List.mem_cons_self ..)
      cases event with
      | sent statement =>
          rw [List.cons_append, appliedIn, Option.isNone_iff_eq_none.1 here, Option.none_or, later]
      | noted entry => exact later
      | began opened => cases here
      | committed accepted => cases here
      | rolledBack => cases here

theorem appliedIn_append_quiet (open? : Option Migration) (trace : List Event)
    (allQuiet : ∀ event ∈ quiet, event.isQuiet = true) :
    appliedIn open? (trace ++ quiet) = appliedIn open? trace := by
  induction trace generalizing open? with
  | nil =>
      have nothing := appliedIn_quiet_append open? allQuiet []
      rw [List.append_nil] at nothing
      exact nothing
  | cons event others ih =>
      cases event with
      | sent statement => exact ih _
      | noted entry => exact ih _
      | began opened => exact ih _
      | committed accepted =>
          cases accepted with
          | true => exact congrArg (open?.toList ++ ·) (ih none)
          | false => exact ih _
      | rolledBack => exact ih _

theorem applied_quiet (allQuiet : ∀ event ∈ quiet, event.isQuiet = true) : applied quiet = [] :=
  appliedIn_append_quiet none [] allQuiet

end Quiet

namespace Migration

variable {σ ε : Type}

section Reading

variable [OfFault ε] (server : Server σ) (state : σ)

def answeredTable : Except Fault Bool :=
  @Dialogue.firstOf _ .historyExists decodeFlag (server.answer .historyExists state).1

theorem run_records :
    (Session.ofDialogue (records : Dialogue ε _)).run server state =
      Run.andThen ⟨(answeredTable server state).mapError OfFault.ofFault,
          (server.answer .historyExists state).2, [.sent .historyExists]⟩
        (fun there => (Session.ofDialogue
          (if there then Dialogue.all .history MigrationRecord.decode else pure []) :
          Session ε _).run server) := by
  have asked : (Session.ofDialogue (Dialogue.first .historyExists decodeFlag) :
      Session ε Bool).run server state = _ :=
    Session.run_first server .historyExists decodeFlag state
  rw [records, Session.ofDialogue_bind, Session.run_bind, asked]
  rfl

theorem run_records_of_unknown {fault : Fault} (failed : answeredTable server state = .error fault) :
    (Session.ofDialogue (records : Dialogue ε _)).run server state =
      ⟨.error (OfFault.ofFault fault), (server.answer .historyExists state).2,
        [.sent .historyExists]⟩ := by
  rw [run_records, failed]
  rfl

theorem run_records_of_absent (absent : answeredTable server state = .ok false) :
    (Session.ofDialogue (records : Dialogue ε _)).run server state =
      ⟨.ok [], (server.answer .historyExists state).2, [.sent .historyExists]⟩ := by
  rw [run_records, absent]
  rfl

theorem run_records_of_there (there : answeredTable server state = .ok true) :
    let listed := server.answer .history (server.answer .historyExists state).2
    (Session.ofDialogue (records : Dialogue ε _)).run server state =
      ⟨(@Dialogue.allOf _ .history MigrationRecord.decode listed.1).mapError OfFault.ofFault,
        listed.2, [.sent .historyExists, .sent .history]⟩ := by
  have listed : (Session.ofDialogue (Dialogue.all .history MigrationRecord.decode) :
      Session ε _).run server (server.answer .historyExists state).2 = _ :=
    Session.run_all server .history MigrationRecord.decode _
  rw [run_records, there]
  exact congrArg (fun rest =>
    Run.mk rest.result rest.state (.sent .historyExists :: rest.trace)) listed

end Reading

def pendingNote (migration : Migration) : JournalEntry :=
  .migrationPending migration.version migration.description

def completion (count : Nat) (result : Except MigrationError Unit) : List Event :=
  match result with
  | .ok _ => [.noted (.migrationsApplied count)]
  | .error _ => []

def pendingNotes (waiting : List Migration) : List Event :=
  waiting.map (fun migration => .noted migration.pendingNote)

theorem mem_pendingNotes {waiting : List Migration} {event : Event}
    (member : event ∈ pendingNotes waiting) : ∃ entry, event = .noted entry := by
  obtain ⟨migration, _, same⟩ := List.mem_map.1 member
  exact ⟨migration.pendingNote, same.symm⟩

theorem pendingNotes_quiet (waiting : List Migration) :
    ∀ event ∈ pendingNotes waiting, event.isQuiet = true := by
  intro event member
  obtain ⟨entry, same⟩ := mem_pendingNotes member
  rw [same]
  rfl

theorem completion_quiet (count : Nat) (result : Except MigrationError Unit) :
    ∀ event ∈ completion count result, event.isQuiet = true := by
  cases result <;> simp [completion, Event.isQuiet]

theorem run_notePending (server : Server σ) (waiting : List Migration) (state : σ) :
    (Session.ofDialogue (notePending waiting)).run server state =
      ⟨.ok (), state, pendingNotes waiting⟩ := by
  induction waiting with
  | nil => rfl
  | cons migration others ih =>
      change ((Session.ofDialogue (notePending others)).run server state).after _ = _
      rw [ih]
      rfl

theorem pending_eq_nil_iff (found : List MigrationRecord) :
    pending found = [] ↔ ∀ migration ∈ known, ∃ record ∈ found,
      record.version = migration.version ∧ record.success = true := by
  simp [pending, isApplied]

/-- Bringing the schema up to date by a given task, which is left out when nothing is pending. -/
def bringUp (task : Session MigrationError Unit) : Session MigrationError Unit := do
  let waiting := pending (← (records : Dialogue MigrationError _))
  if waiting.isEmpty then Session.note .schemaUpToDate (.done ())
  else
    notePending waiting
    task
    Session.note (.migrationsApplied waiting.length) (.done ())

theorem run_announced (server : Server σ) (task : Session MigrationError Unit)
    (waiting : List Migration) (state : σ) :
    let direct := task.run server state
    (Session.ofDialogue (notePending waiting) >>= fun _ => task >>= fun _ =>
      Session.note (.migrationsApplied waiting.length) (.done ())).run server state =
      ⟨direct.result, direct.state, pendingNotes waiting ++
        (direct.trace ++ completion waiting.length direct.result)⟩ := by
  intro direct
  rw [Session.run_bind, run_notePending, Run.andThen]
  dsimp only
  rw [Session.run_bind]
  change Run.mk (direct.andThen _).result (direct.andThen _).state
    (_ ++ (direct.andThen _).trace) = _
  obtain ⟨result, reached, trace⟩ := direct
  cases result with
  | ok => rfl
  | error error => rw [completion, List.append_nil]; rfl

section BringUp

variable (server : Server σ) (task : Session MigrationError Unit) (state after : σ)
  (found : List MigrationRecord) (reads : List Event)

theorem run_bringUp_of_failure (error : MigrationError)
    (failed : (Session.ofDialogue (records : Dialogue MigrationError _)).run server state =
      ⟨.error error, after, reads⟩) :
    (bringUp task).run server state = ⟨.error error, after, reads⟩ := by
  unfold bringUp
  rw [Session.run_bind]
  change (Run.andThen ((Session.ofDialogue records).run server state) _) = _
  rw [failed]
  rfl

theorem run_bringUp_of_settled (nothing : pending found = [])
    (read : (Session.ofDialogue (records : Dialogue MigrationError _)).run server state =
      ⟨.ok found, after, reads⟩) :
    (bringUp task).run server state = ⟨.ok (), after, reads ++ [.noted .schemaUpToDate]⟩ := by
  unfold bringUp
  rw [Session.run_bind]
  change (Run.andThen ((Session.ofDialogue records).run server state) _) = _
  rw [read]
  simp only [Run.andThen, nothing, List.isEmpty_nil, if_true]
  rfl

theorem run_bringUp_of_pending (waiting : pending found ≠ [])
    (read : (Session.ofDialogue (records : Dialogue MigrationError _)).run server state =
      ⟨.ok found, after, reads⟩) :
    let direct := task.run server after
    (bringUp task).run server state =
      ⟨direct.result, direct.state,
        reads ++ (pendingNotes (pending found) ++
          (direct.trace ++ completion (pending found).length direct.result))⟩ := by
  intro direct
  have busy : (pending found).isEmpty = false := List.isEmpty_eq_false_iff.2 waiting
  unfold bringUp
  rw [Session.run_bind]
  change (Run.andThen ((Session.ofDialogue records).run server state) _) = _
  rw [read]
  simp only [Run.andThen, busy, Bool.false_eq_true, if_false]
  exact congrArg (fun rest => Run.mk rest.result rest.state (reads ++ rest.trace))
    (run_announced server task (pending found) after)

theorem run_migrate_of_settled (nothing : pending found = [])
    (read : (Session.ofDialogue (records : Dialogue MigrationError _)).run server state =
      ⟨.ok found, after, reads⟩) :
    migrate.run server state = ⟨.ok (), after, reads ++ [.noted .schemaUpToDate]⟩ :=
  run_bringUp_of_settled server (migrateAll known) state after found reads nothing read

theorem run_migrate_of_pending (waiting : pending found ≠ [])
    (read : (Session.ofDialogue (records : Dialogue MigrationError _)).run server state =
      ⟨.ok found, after, reads⟩) :
    let direct := (migrateAll known).run server after
    migrate.run server state =
      ⟨direct.result, direct.state,
        reads ++ (pendingNotes (pending found) ++
          (direct.trace ++ completion (pending found).length direct.result))⟩ :=
  run_bringUp_of_pending server (migrateAll known) state after found reads waiting read

end BringUp

def firstAltered? (recorded : List RecordedChecksum) (migrations : List Migration) :
    Option Migration :=
  migrations.find? (fun migration =>
    (recordedFor? recorded migration.version).any (fun checksum => !checksum.isKnown))

/-- Where all are recorded nothing is applied, and the first altered script is the verdict. -/
theorem run_applyAll_of_recorded (server : Server σ) (state : σ)
    (recorded : List RecordedChecksum) (migrations : List Migration)
    (there : ∀ migration ∈ migrations, (recordedFor? recorded migration.version).isSome = true) :
    (applyAll recorded migrations).run server state =
      ⟨match firstAltered? recorded migrations with
        | some migration => .error (.altered migration.version)
        | none => .ok (), state, []⟩ := by
  induction migrations with
  | nil => rfl
  | cons migration others ih =>
      have later := ih (fun other member => there other (List.mem_cons_of_mem _ member))
      obtain ⟨checksum, found⟩ :=
        Option.isSome_iff_exists.1 (there migration (List.mem_cons_self ..))
      rw [applyAll, found, firstAltered?, List.find?_cons, found]
      cases scripts : checksum.isKnown with
      | true =>
          simp only [if_true, Option.any_some, scripts, Bool.not_true]
          exact later
      | false =>
          simp only [Option.any_some, scripts, Bool.not_false]
          rfl

theorem find?_eq_some_iff_of_distinct {α β : Type} [DecidableEq β] {key : α → β} {values : List α}
    (distinct : (values.map key).Nodup) {wanted : β} {value : α} :
    values.find? (fun other => decide (key other = wanted)) = some value ↔
      value ∈ values ∧ key value = wanted := by
  constructor
  · intro found
    have same := List.find?_some found
    exact ⟨List.mem_of_find?_eq_some found, of_decide_eq_true same⟩
  · rintro ⟨there, same⟩
    have some : (values.find? (fun other => decide (key other = wanted))).isSome = true :=
      List.find?_isSome.2 ⟨value, there, decide_eq_true same⟩
    obtain ⟨other, found⟩ := Option.isSome_iff_exists.1 some
    have also := List.find?_some found
    rw [found, List.inj_on_of_nodup_map distinct (List.mem_of_find?_eq_some found) there
      ((of_decide_eq_true also).trans same.symm)]

theorem recordedFor?_of_mem {recorded : List RecordedChecksum} {checksum : RecordedChecksum}
    (distinct : (recorded.map RecordedChecksum.version).Nodup) (there : checksum ∈ recorded) :
    recordedFor? recorded checksum.version = some checksum := by
  have reversed : (recorded.reverse.map RecordedChecksum.version).Nodup := by
    rw [List.map_reverse]
    exact List.nodup_reverse.2 distinct
  exact (find?_eq_some_iff_of_distinct reversed).2 ⟨List.mem_reverse.2 there, rfl⟩

end Migration

end HazardStore
