import HazardStore.Proofs.Migration.Runs
import HazardStore.Proofs.Session.Transactions
/-!
Migrations that are started one after the other. Each has a transaction of its own, in which its
script and its record are sent; the first request that is refused decides how the transaction goes.
The time that a migration took is stored after its commit and outside its transaction. What the
server says to that is a parameter here: it can end the run, and takes no migration back.
-/

namespace HazardStore

namespace Migration

/-- What the server says to the requests of one transaction. -/
structure Attempt where
  migration : Migration
  begun : Except ServerError Unit
  scripted : Except ServerError Unit
  recorded : Except ServerError Unit
  committed : Except ServerError Unit

namespace Attempt

def hear {σ : Type} (server : Server σ) (migration : Migration) (state : σ) : Attempt :=
  let begun := server.begin state
  let scripted := server.answer (.applyMigration migration) begun.2
  let recorded := server.answer (.recordMigration migration) scripted.2
  { migration := migration
    begun := begun.1
    scripted := scripted.1.map (fun _ => ())
    recorded := recorded.1.map (fun _ => ())
    committed := (server.commit recorded.2).1 }

variable (attempt : Attempt)

def work : Work MigrationError Unit :=
  match attempt.scripted with
  | .error error =>
      ⟨[.applyMigration attempt.migration],
        .error (.refused attempt.migration.version (.server error))⟩
  | .ok () =>
      match attempt.recorded with
      | .error error =>
          ⟨[.applyMigration attempt.migration, .recordMigration attempt.migration],
            .error (.database (.server error))⟩
      | .ok () =>
          ⟨[.applyMigration attempt.migration, .recordMigration attempt.migration],
            .ok (.keep ())⟩

def events : List Event :=
  (attempt.work.verdict attempt.begun attempt.committed).1.events

def outcome : Except MigrationError Unit :=
  (attempt.work.verdict attempt.begun attempt.committed).2

structure Accepted : Prop where
  begun : attempt.begun = .ok ()
  scripted : attempt.scripted = .ok ()
  recorded : attempt.recorded = .ok ()
  committed : attempt.committed = .ok ()

/-- How the transaction goes, by the first request that is refused. -/
inductive Goes : List Event → Except MigrationError Unit → Prop where
  | unopened (error : ServerError) (begun : attempt.begun = .error error) :
      Goes [.began false] (.error (.database (.server error)))
  | unscripted (error : ServerError) (begun : attempt.begun = .ok ())
      (scripted : attempt.scripted = .error error) :
      Goes [.began true, .sent (.applyMigration attempt.migration), .rolledBack]
        (.error (.refused attempt.migration.version (.server error)))
  | unrecorded (error : ServerError) (begun : attempt.begun = .ok ())
      (scripted : attempt.scripted = .ok ()) (recorded : attempt.recorded = .error error) :
      Goes [.began true, .sent (.applyMigration attempt.migration),
          .sent (.recordMigration attempt.migration), .rolledBack]
        (.error (.database (.server error)))
  | uncommitted (error : ServerError) (begun : attempt.begun = .ok ())
      (scripted : attempt.scripted = .ok ()) (recorded : attempt.recorded = .ok ())
      (committed : attempt.committed = .error error) :
      Goes [.began true, .sent (.applyMigration attempt.migration),
          .sent (.recordMigration attempt.migration), .committed false, .rolledBack]
        (.error (.database (.server error)))
  | applied (accepted : attempt.Accepted) :
      Goes [.began true, .sent (.applyMigration attempt.migration),
          .sent (.recordMigration attempt.migration), .committed true] (.ok ())

theorem goes : attempt.Goes attempt.events attempt.outcome := by
  unfold events outcome work
  cases begun : attempt.begun with
  | error error => exact .unopened error begun
  | ok =>
      cases scripted : attempt.scripted with
      | error error => exact .unscripted error begun scripted
      | ok =>
          cases recorded : attempt.recorded with
          | error error => exact .unrecorded error begun scripted recorded
          | ok =>
              cases committed : attempt.committed with
              | error error => exact .uncommitted error begun scripted recorded committed
              | ok => exact .applied ⟨begun, scripted, recorded, committed⟩

end Attempt

section Running

variable {σ : Type} (server : Server σ) (migration : Migration) (state : σ)

theorem applyWork_done :
    let attempt := Attempt.hear server migration state
    attempt.work.Done server attempt.committed
      ((Session.ofDialogue (applyWork migration)).run server (server.begin state).2) := by
  intro attempt
  rw [applyWork, Session.ofDialogue, Session.run_ask]
  unfold Attempt.work
  cases scripted : (server.answer (.applyMigration migration) (server.begin state).2).1 with
  | error error =>
      have refused : attempt.scripted = .error error := congrArg (Except.map _) scripted
      rw [refused]
      exact .of_error rfl rfl
  | ok reply =>
      have applied : attempt.scripted = .ok () := congrArg (Except.map _) scripted
      rw [applied]
      dsimp only
      rw [Session.ofDialogue_bind, Session.run_bind, Session.ofDialogue_count, Session.run_ask]
      cases recorded : (server.answer (.recordMigration migration)
          (server.answer (.applyMigration migration) (server.begin state).2).2).1 with
      | error error =>
          have refused : attempt.recorded = .error error := congrArg (Except.map _) recorded
          rw [refused]
          exact .of_error rfl rfl
      | ok reply =>
          have noted : attempt.recorded = .ok () := congrArg (Except.map _) recorded
          rw [noted]
          exact ⟨rfl, rfl, fun _ _ => rfl⟩

theorem run_attempt :
    let attempt := Attempt.hear server migration state
    let run := (Session.bracket (applyWork migration)).run server state
    run.trace = attempt.events ∧ run.result = attempt.outcome :=
  (applyWork_done server migration state).bracket

end Running

section Sequence

variable {σ : Type} (timed : Migration → Except ServerError Unit)

def timing (migration : Migration) : Except MigrationError Unit :=
  (timed migration).mapError (fun error => .database (.server error))

/-- Applying migrations as the migrator does, when the server speaks in this way about their
times. -/
def applyAllTimed (recorded : List RecordedChecksum) :
    List Migration → Session MigrationError Unit
  | [] => return ()
  | migration :: others => do
      match recordedFor? recorded migration.version with
      | some checksum =>
          if checksum.isKnown then applyAllTimed recorded others
          else .fail (.altered migration.version)
      | none =>
          Session.bracket (applyWork migration)
          Dialogue.ofExcept (timing timed migration)
          applyAllTimed recorded others

theorem applyAllTimed_stored (recorded : List RecordedChecksum) (migrations : List Migration) :
    applyAllTimed (fun _ => .ok ()) recorded migrations = applyAll recorded migrations := by
  induction migrations with
  | nil => rfl
  | cons migration others ih =>
      rw [applyAllTimed, applyAll, ih]
      rfl

def missing (recorded : List RecordedChecksum) (migrations : List Migration) : List Migration :=
  migrations.filter (fun migration =>
    decide (∀ checksum ∈ recorded, checksum.version ≠ migration.version))

theorem recordedFor?_eq_none_iff {recorded : List RecordedChecksum} {version : Int64} :
    recordedFor? recorded version = none ↔ ∀ checksum ∈ recorded, checksum.version ≠ version := by
  simp [recordedFor?]

theorem missing_cons_of_recorded {recorded : List RecordedChecksum} {migration : Migration}
    {checksum : RecordedChecksum} (there : recordedFor? recorded migration.version = some checksum)
    (others : List Migration) :
    missing recorded (migration :: others) = missing recorded others := by
  apply List.filter_cons_of_neg
  rw [decide_eq_true_eq, ← recordedFor?_eq_none_iff, there]
  exact Option.some_ne_none checksum

theorem missing_cons_of_unrecorded {recorded : List RecordedChecksum} {migration : Migration}
    (there : recordedFor? recorded migration.version = none) (others : List Migration) :
    missing recorded (migration :: others) = migration :: missing recorded others := by
  apply List.filter_cons_of_pos
  rw [decide_eq_true_eq, ← recordedFor?_eq_none_iff, there]

def Attempt.result (attempt : Attempt) : Except MigrationError Unit :=
  match attempt.outcome with
  | .ok () => timing timed attempt.migration
  | .error error => .error error

/-- Migrations are started in order, the next one only after everything went well. -/
structure InTurn (server : Server σ) (migrations : List Migration) (attempts : List Attempt)
    (result : Except MigrationError Unit) : Prop where
  heard : ∀ attempt ∈ attempts, ∃ state, attempt = .hear server attempt.migration state
  order : attempts.map Attempt.migration <+: migrations
  earlier : ∀ attempt ∈ attempts.dropLast, attempt.result timed = .ok ()
  failed : ∀ attempt ∈ attempts, ∀ error, attempt.result timed = .error error →
    result = .error error
  complete : result = .ok () → attempts.map Attempt.migration = migrations ∧
    ∀ attempt ∈ attempts, attempt.result timed = .ok ()

variable {timed}

namespace InTurn

variable {server : Server σ} {migrations : List Migration} {attempts : List Attempt}
  {result : Except MigrationError Unit}

theorem done (server : Server σ) : InTurn timed server [] [] (.ok ()) where
  heard _ impossible := nomatch impossible
  order := List.nil_prefix
  earlier _ impossible := nomatch impossible
  failed _ impossible := nomatch impossible
  complete _ := ⟨rfl, fun _ impossible => nomatch impossible⟩

theorem stopped (server : Server σ) (migrations : List Migration) (error : MigrationError) :
    InTurn timed server migrations [] (.error error) where
  heard _ impossible := nomatch impossible
  order := List.nil_prefix
  earlier _ impossible := nomatch impossible
  failed _ impossible := nomatch impossible
  complete impossible := nomatch impossible

theorem last (state : σ) (migration : Migration) (others : List Migration) {error : MigrationError}
    (failed : (Attempt.hear server migration state).result timed = .error error) :
    InTurn timed server (migration :: others) [.hear server migration state] (.error error) where
  heard attempt member := by
    rw [List.mem_singleton.1 member]
    exact ⟨state, rfl⟩
  order := ⟨others, rfl⟩
  earlier _ impossible := nomatch impossible
  failed attempt member other same := by
    rw [List.mem_singleton.1 member, failed] at same
    exact same
  complete impossible := nomatch impossible

theorem next (state : σ) (migration : Migration)
    (succeeded : (Attempt.hear server migration state).result timed = .ok ())
    (rest : InTurn timed server migrations attempts result) :
    InTurn timed server (migration :: migrations) (.hear server migration state :: attempts)
      result where
  heard attempt member := by
    rcases List.mem_cons.1 member with first | later
    · rw [first]
      exact ⟨state, rfl⟩
    · exact rest.heard attempt later
  order := (List.prefix_cons_inj migration).2 rest.order
  earlier attempt member := by
    cases attempts with
    | nil => cases member
    | cons second others =>
        rcases List.mem_cons.1 member with first | later
        · rw [first]
          exact succeeded
        · exact rest.earlier attempt later
  failed attempt member error failed := by
    rcases List.mem_cons.1 member with first | later
    · rw [first, succeeded] at failed
      cases failed
    · exact rest.failed attempt later error failed
  complete finished := by
    obtain ⟨all, succeeds⟩ := rest.complete finished
    refine ⟨congrArg (migration :: ·) all, ?_⟩
    intro attempt member
    rcases List.mem_cons.1 member with first | later
    · rw [first]
      exact succeeded
    · exact succeeds attempt later

end InTurn

variable (timed)

/-- One migration and what follows it. The rest is reached only when the migration is committed and
its time is stored. -/
theorem inTurn_step (server : Server σ) (migration : Migration) {others : List Migration}
    {next : Session MigrationError Unit} (state : σ)
    (rest : ∀ after, ∃ attempts,
      InTurn timed server others attempts (next.run server after).result ∧
        (next.run server after).trace = attempts.flatMap Attempt.events) :
    let run := (Session.bracket (applyWork migration) >>= fun _ =>
      Session.ofDialogue (Dialogue.ofExcept (timing timed migration)) >>= fun _ => next).run
        server state
    ∃ attempts, InTurn timed server (migration :: others) attempts run.result ∧
      run.trace = attempts.flatMap Attempt.events := by
  obtain ⟨sent, came⟩ := run_attempt server migration state
  rw [Session.run_bind]
  generalize (Session.bracket (applyWork migration)).run server state = run at sent came ⊢
  have alone : run.trace = [Attempt.hear server migration state].flatMap Attempt.events := by
    rw [List.flatMap_singleton]
    exact sent
  -- what follows is reached past the commit and past the stored time
  cases ended : run.result with
  | error error =>
      rw [ended] at came
      rw [Run.andThen_of_error ended]
      have result : (Attempt.hear server migration state).result timed = .error error := by
        rw [Attempt.result, ← came]
      exact ⟨_, .last state migration others result, alone⟩
  | ok =>
      rw [ended] at came
      rw [Run.andThen_of_ok ended, Session.run_bind]
      have result : (Attempt.hear server migration state).result timed = timing timed migration := by
        rw [Attempt.result, ← came]
        rfl
      cases stored : timing timed migration with
      | error error =>
          rw [stored] at result
          exact ⟨_, .last state migration others result, (List.append_nil _).trans alone⟩
      | ok =>
          rw [stored] at result
          obtain ⟨attempts, inTurn, trace⟩ := rest run.state
          refine ⟨_, inTurn.next state migration result, ?_⟩
          rw [List.flatMap_cons, ← sent, ← trace]
          rfl

theorem applyAllTimed_inTurn (server : Server σ) (recorded : List RecordedChecksum)
    (migrations : List Migration) (state : σ) :
    let run := (applyAllTimed timed recorded migrations).run server state
    ∃ attempts, InTurn timed server (missing recorded migrations) attempts run.result ∧
      run.trace = attempts.flatMap Attempt.events := by
  -- One migration leaves the server in any state, so the rest is taken from all of them.
  induction migrations generalizing state with
  | nil => exact ⟨[], .done server, rfl⟩
  | cons migration others ih =>
      rw [applyAllTimed]
      cases there : recordedFor? recorded migration.version with
      | some checksum =>
          rw [missing_cons_of_recorded there]
          dsimp only
          cases checksum.isKnown with
          | true => exact ih state
          | false => exact ⟨[], .stopped server _ _, rfl⟩
      | none =>
          rw [missing_cons_of_unrecorded there]
          exact inTurn_step timed server migration state ih

end Sequence

end Migration

end HazardStore
