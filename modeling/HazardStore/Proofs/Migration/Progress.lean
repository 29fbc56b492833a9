import HazardStore.Proofs.Migration.Attempts
import HazardStore.Proofs.Migration.History
import HazardStore.Proofs.Session.Notes
/-!
How far bringing the schema up to date gets, whatever the server answers. The history is read twice,
once to see whether anything is pending and once more by the migrator, and nothing is assumed about
how the two readings compare. What is committed are always the first of the migrations that the
migrator found missing, in the order of their versions.
-/

namespace HazardStore

namespace Migration

theorem known_ascending : known.Pairwise (fun one two => one.version < two.version) := by
  decide +kernel

namespace Attempt

def applied (attempt : Attempt) : List Migration :=
  match attempt.outcome with
  | .ok () => [attempt.migration]
  | .error _ => []

variable (attempt : Attempt)

theorem appliedIn_events (open? : Option Migration) (rest : List Event) :
    appliedIn open? (attempt.events ++ rest) = attempt.applied ++ appliedIn none rest := by
  have goes := attempt.goes
  unfold applied
  generalize attempt.events = events at goes ⊢
  generalize attempt.outcome = outcome at goes ⊢
  cases goes with
  | unopened error begun => rfl
  | unscripted error begun scripted => rfl
  | unrecorded error begun scripted recorded => rfl
  | uncommitted error begun scripted recorded committed => rfl
  | applied accepted => rfl

theorem unnoted (entry : JournalEntry) : .noted entry ∉ attempt.events := by
  have goes := attempt.goes
  generalize attempt.events = events at goes ⊢
  generalize attempt.outcome = outcome at goes
  cases goes <;> simp

variable {attempt} {timed : Migration → Except ServerError Unit}

theorem outcome_of_result (succeeded : attempt.result timed = .ok ()) :
    attempt.outcome = .ok () := by
  unfold result at succeeded
  cases came : attempt.outcome with
  | ok => rfl
  | error error =>
      rw [came] at succeeded
      cases succeeded

theorem applied_of_outcome (succeeded : attempt.outcome = .ok ()) :
    attempt.applied = [attempt.migration] := by
  unfold applied
  rw [succeeded]

end Attempt

section Commits

variable {attempts : List Attempt}

theorem applied_flatMap_events (attempts : List Attempt) :
    applied (attempts.flatMap Attempt.events) = attempts.flatMap Attempt.applied := by
  unfold HazardStore.applied
  induction attempts with
  | nil => rfl
  | cons attempt others ih =>
      rw [List.flatMap_cons, Attempt.appliedIn_events, ih, List.flatMap_cons]

theorem flatMap_applied_of_all (all : ∀ attempt ∈ attempts, attempt.outcome = .ok ()) :
    attempts.flatMap Attempt.applied = attempts.map Attempt.migration := by
  induction attempts with
  | nil => rfl
  | cons attempt others ih =>
      rw [List.flatMap_cons, Attempt.applied_of_outcome (all attempt (List.mem_cons_self ..)),
        ih (fun other member => all other (List.mem_cons_of_mem _ member))]
      rfl

/-- When only the last attempt can fail, what is committed are the first migrations attempted. -/
theorem isPrefix_flatMap_applied (earlier : ∀ attempt ∈ attempts.dropLast, attempt.outcome = .ok ()) :
    attempts.flatMap Attempt.applied <+: attempts.map Attempt.migration := by
  induction attempts with
  | nil => exact List.nil_prefix
  | cons attempt others ih =>
      -- An attempt with another one after it succeeded; only the last one may commit nothing.
      cases others with
      | nil =>
          rw [List.flatMap_singleton]
          cases came : attempt.outcome with
          | ok => rw [Attempt.applied_of_outcome came]; exact List.prefix_refl _
          | error error => unfold Attempt.applied; rw [came]; exact List.nil_prefix
      | cons second rest =>
          have first := earlier attempt (List.mem_cons_self ..)
          rw [List.flatMap_cons, Attempt.applied_of_outcome first]
          exact (List.prefix_cons_inj _).2
            (ih (fun other member => earlier other (List.mem_cons_of_mem _ member)))

variable {σ : Type} {server : Server σ} {timed : Migration → Except ServerError Unit}
  {migrations : List Migration} {result : Except MigrationError Unit}

theorem InTurn.committed (inTurn : InTurn timed server migrations attempts result) :
    applied (attempts.flatMap Attempt.events) <+: migrations := by
  rw [applied_flatMap_events]
  exact (isPrefix_flatMap_applied (fun attempt member =>
    Attempt.outcome_of_result (inTurn.earlier attempt member))).trans inTurn.order

theorem InTurn.committed_all (inTurn : InTurn timed server migrations attempts result)
    (succeeded : result = .ok ()) :
    applied (attempts.flatMap Attempt.events) = migrations := by
  obtain ⟨all, successes⟩ := inTurn.complete succeeded
  rw [applied_flatMap_events, ← all]
  exact flatMap_applied_of_all (fun attempt member =>
    Attempt.outcome_of_result (successes attempt member))

end Commits

section Reading

variable {σ : Type} (server : Server σ) (state : σ)

def readHistory : Run σ MigrationError (List MigrationRecord) :=
  (Session.ofDialogue records).run server state

/-- What the migrator reads, from where the first reading leaves the server. -/
def judgeHistory : Run σ MigrationError (List RecordedChecksum) :=
  (Session.ofDialogue (recordedChecksums known)).run server (readHistory server state).state

theorem readHistory_trace : (readHistory server state).trace = [.sent .historyExists] ∨
    (readHistory server state).trace = [.sent .historyExists, .sent .history] := by
  unfold readHistory
  cases table : answeredTable server state with
  | error fault =>
      rw [run_records_of_unknown server state table]
      exact Or.inl rfl
  | ok there =>
      cases there with
      | false =>
          rw [run_records_of_absent server state table]
          exact Or.inl rfl
      | true =>
          rw [run_records_of_there server state table]
          exact Or.inr rfl

theorem judgeHistory_trace : (judgeHistory server state).trace = [.sent .failedMigration] ∨
    (judgeHistory server state).trace = [.sent .failedMigration, .sent .recordedChecksums] := by
  have asked (after : σ) : ((Session.ofDialogue (Dialogue.first? .failedMigration decodeVersion) :
      Session MigrationError _).run server after).trace = [.sent .failedMigration] :=
    congrArg Run.trace (Session.run_first? server ..)
  have listed (after : σ) : ((Session.ofDialogue
      (Dialogue.all .recordedChecksums RecordedChecksum.decode) :
      Session MigrationError _).run server after).trace = [.sent .recordedChecksums] :=
    congrArg Run.trace (Session.run_all server ..)
  unfold judgeHistory recordedChecksums
  rw [Session.ofDialogue_bind, Session.run_bind]
  rcases Run.andThen_trace _ _ with ended | ⟨failed, went⟩
  · exact Or.inl (ended.trans (asked _))
  · rw [went, asked]
    cases failed with
    | some version => exact Or.inl rfl
    | none =>
        refine Or.inr (congrArg (_ :: ·) ?_)
        dsimp only
        rw [Session.ofDialogue_bind, Session.run_bind]
        rcases Run.andThen_trace _ _ with ended | ⟨recorded, went⟩
        · exact ended.trans (listed _)
        · rw [went, listed]
          cases firstUnknown? known recorded <;> rfl

end Reading

/-- Statements that apply no migration, and nothing else. -/
def Asks (trace : List Event) : Prop :=
  ∀ event ∈ trace, ∃ statement, event = .sent statement ∧ statement.applies? = none

theorem Asks.quiet {trace : List Event} (asks : Asks trace) :
    ∀ event ∈ trace, event.isQuiet = true := by
  intro event member
  obtain ⟨statement, same, applies⟩ := asks event member
  rw [same, Event.isQuiet, applies]
  rfl

theorem Asks.unnoted {trace : List Event} (asks : Asks trace) (entry : JournalEntry) :
    .noted entry ∉ trace := by
  intro member
  obtain ⟨statement, same, _⟩ := asks _ member
  cases same

theorem asks_readHistory {σ : Type} (server : Server σ) (state : σ) :
    Asks (readHistory server state).trace := by
  rcases readHistory_trace server state with short | long
  · simp [short, Asks, Statement.applies?]
  · simp [long, Asks, Statement.applies?]

theorem asks_judgeHistory {σ : Type} (server : Server σ) (state : σ) :
    Asks (judgeHistory server state).trace := by
  rcases judgeHistory_trace server state with short | long
  · simp [short, Asks, Statement.applies?]
  · simp [long, Asks, Statement.applies?]

/-! ### How far it gets -/

section Progress

variable {σ : Type} (timed : Migration → Except ServerError Unit)

def migrateAllTimed (migrations : List Migration) : Session MigrationError Unit := do
  let recorded ← recordedChecksums migrations
  applyAllTimed timed recorded migrations

/-- Bringing the schema up to date, when the server speaks in this way about the times that
migrations took. -/
def migrateTimed : Session MigrationError Unit :=
  bringUp (migrateAllTimed timed known)

theorem migrateTimed_stored : migrateTimed (fun _ => .ok ()) = migrate := by
  unfold migrateTimed migrateAllTimed
  simp only [applyAllTimed_stored]
  rfl

variable (server : Server σ) (state : σ)

/-- The migrator is called upon and accepts the history. -/
structure Starts (found : List MigrationRecord) (recorded : List RecordedChecksum) : Prop where
  read : (readHistory server state).result = .ok found
  waiting : pending found ≠ []
  judged : (judgeHistory server state).result = .ok recorded

/-- What is sent and noted, and what comes of it, by how far it gets. -/
inductive Proceeds : List Event → Except MigrationError Unit → Prop where
  | unread (error : MigrationError) (failed : (readHistory server state).result = .error error) :
      Proceeds (readHistory server state).trace (.error error)
  | settled (found : List MigrationRecord) (read : (readHistory server state).result = .ok found)
      (nothing : pending found = []) :
      Proceeds ((readHistory server state).trace ++ [.noted .schemaUpToDate]) (.ok ())
  | rejected (found : List MigrationRecord) (error : MigrationError)
      (read : (readHistory server state).result = .ok found) (waiting : pending found ≠ [])
      (failed : (judgeHistory server state).result = .error error) :
      Proceeds ((readHistory server state).trace ++
        (pendingNotes (pending found) ++ (judgeHistory server state).trace)) (.error error)
  | started (found : List MigrationRecord) (recorded : List RecordedChecksum)
      (attempts : List Attempt) (result : Except MigrationError Unit)
      (starts : Starts server state found recorded)
      (inTurn : InTurn timed server (missing recorded known) attempts result)
      (brackets : ∀ attempt ∈ attempts, attempt.Goes attempt.events attempt.outcome) :
      Proceeds ((readHistory server state).trace ++ (pendingNotes (pending found) ++
        ((judgeHistory server state).trace ++ (attempts.flatMap Attempt.events ++
          completion (pending found).length result)))) result

theorem run_migrateTimed :
    let run := (migrateTimed timed).run server state
    Proceeds timed server state run.trace run.result := by
  unfold migrateTimed
  cases read : (readHistory server state).result with
  | error error =>
      rw [run_bringUp_of_failure server _ state _ _ error (Run.eq_of_result read)]
      exact .unread error read
  | ok found =>
      by_cases nothing : pending found = []
      · rw [run_bringUp_of_settled server _ state _ found _ nothing (Run.eq_of_result read)]
        exact .settled found read nothing
      · rw [run_bringUp_of_pending server _ state _ found _ nothing (Run.eq_of_result read)]
        unfold migrateAllTimed
        rw [Session.run_bind]
        -- The migrator reads where the first reading left the server, so its run goes on from there.
        change Proceeds timed server state (_ ++ (_ ++ (((judgeHistory server state).andThen
          _).trace ++ completion _ ((judgeHistory server state).andThen _).result)))
          ((judgeHistory server state).andThen _).result
        cases judged : (judgeHistory server state).result with
        | error error =>
            rw [Run.andThen_of_error judged, completion, List.append_nil]
            exact .rejected found error read nothing judged
        | ok recorded =>
            rw [Run.andThen_of_ok judged]
            obtain ⟨attempts, inTurn, trace⟩ := applyAllTimed_inTurn timed server recorded
              known (judgeHistory server state).state
            dsimp only
            rw [trace, List.append_assoc]
            exact .started found recorded attempts _ ⟨read, nothing, judged⟩ inTurn
              (fun attempt _ => attempt.goes)

end Progress

section Consequences

variable {σ : Type} (timed : Migration → Except ServerError Unit) (server : Server σ) (state : σ)

def pendingMessage : String :=
  "Pending migration"

def completionMessage : String :=
  "Database migrations applied"

/-- The same versions are read as successes at first and found recorded by the migrator. -/
def SameVersions (found : List MigrationRecord) (recorded : List RecordedChecksum) : Prop :=
  ∀ version, (∃ record ∈ found, record.version = version ∧ record.success = true) ↔
    ∃ checksum ∈ recorded, checksum.version = version

theorem pending_eq_missing {found : List MigrationRecord} {recorded : List RecordedChecksum}
    (same : SameVersions found recorded) : pending found = missing recorded known := by
  apply List.filter_congr
  intro migration _
  have agree := same migration.version
  rw [Bool.eq_iff_iff, Bool.not_eq_true', Bool.eq_false_iff, decide_eq_true_eq]
  simp only [isApplied, ne_eq, List.any_eq_true, Bool.and_eq_true, decide_eq_true_eq, agree]
  push Not
  rfl

theorem logged_pendingNotes {message : String} (other : pendingMessage ≠ message)
    (waiting : List Migration) : logged message (pendingNotes waiting) = [] := by
  induction waiting with
  | nil => rfl
  | cons migration others ih =>
      have apart : migration.pendingNote.message ≠ message := other
      exact (logged_otherwise apart _).trans ih

theorem logged_events (message : String) (attempts : List Attempt) :
    logged message (attempts.flatMap Attempt.events) = [] := by
  apply logged_eq_nil
  intro entry member
  obtain ⟨attempt, _, among⟩ := List.mem_flatMap.1 member
  exact attempt.unnoted entry among

/-- What is committed and announced, in terms of the migrations that the migrator finds missing. -/
structure Advances (trace : List Event) (result : Except MigrationError Unit) : Prop where
  idle : (∀ found recorded, ¬Starts server state found recorded) → applied trace = []
  ascending : ∀ found recorded, Starts server state found recorded →
    (missing recorded known).Pairwise (fun one two => one.version < two.version)
  committed : ∀ found recorded, Starts server state found recorded →
    applied trace <+: missing recorded known
  complete : ∀ found, (readHistory server state).result = .ok found → pending found ≠ [] →
    result = .ok () → ∃ recorded, Starts server state found recorded ∧
      applied trace = missing recorded known
  announced : logged completionMessage trace ≠ [] ↔
    (∃ found, (readHistory server state).result = .ok found ∧ pending found ≠ []) ∧ result = .ok ()
  counted : ∀ found recorded, Starts server state found recorded → SameVersions found recorded →
    result = .ok () → logged completionMessage trace = [[("applied", .number (applied trace).length)]]

variable {timed server state}

theorem Starts.unique {found others : List MigrationRecord}
    {recorded judged : List RecordedChecksum} (one : Starts server state found recorded)
    (two : Starts server state others judged) : others = found ∧ judged = recorded := by
  have sameFound := two.read.symm.trans one.read
  have sameRecorded := two.judged.symm.trans one.judged
  exact ⟨Except.ok.inj sameFound, Except.ok.inj sameRecorded⟩

theorem applied_between (waiting : List Migration) (middle : List Event) (count : Nat)
    (result : Except MigrationError Unit) :
    applied ((readHistory server state).trace ++ (pendingNotes waiting ++
      ((judgeHistory server state).trace ++ (middle ++ completion count result)))) =
      applied middle := by
  unfold HazardStore.applied
  rw [appliedIn_quiet_append none (asks_readHistory server state).quiet,
    appliedIn_quiet_append none (pendingNotes_quiet waiting),
    appliedIn_quiet_append none (asks_judgeHistory server state).quiet,
    appliedIn_append_quiet none middle (completion_quiet count result)]

theorem logged_between (waiting : List Migration) (attempts : List Attempt) (count : Nat)
    (result : Except MigrationError Unit) :
    logged completionMessage ((readHistory server state).trace ++ (pendingNotes waiting ++
      ((judgeHistory server state).trace ++ (attempts.flatMap Attempt.events ++
        completion count result)))) = logged completionMessage (completion count result) := by
  rw [logged_append, logged_append, logged_append, logged_append,
    logged_eq_nil (asks_readHistory server state).unnoted,
    logged_pendingNotes (by decide), logged_eq_nil (asks_judgeHistory server state).unnoted,
    logged_events]
  rfl

namespace Proceeds

variable {trace : List Event} {result : Except MigrationError Unit}

theorem idle (proceeds : Proceeds timed server state trace result)
    (never : ∀ found recorded, ¬Starts server state found recorded) : applied trace = [] := by
  have reads := (asks_readHistory server state).quiet
  cases proceeds with
  | unread error failed => exact applied_quiet reads
  | settled found read nothing =>
      unfold HazardStore.applied
      rw [appliedIn_quiet_append none reads]
      rfl
  | rejected found error read waiting failed =>
      unfold HazardStore.applied
      rw [appliedIn_quiet_append none reads, appliedIn_quiet_append none (pendingNotes_quiet _)]
      exact applied_quiet (asks_judgeHistory server state).quiet
  | started found recorded attempts result starts => exact absurd starts (never found recorded)

theorem attempts (proceeds : Proceeds timed server state trace result)
    {found : List MigrationRecord} {recorded : List RecordedChecksum}
    (starts : Starts server state found recorded) :
    ∃ attempts, InTurn timed server (missing recorded known) attempts result ∧
      applied trace = applied (attempts.flatMap Attempt.events) ∧
      logged completionMessage trace =
        logged completionMessage (completion (pending found).length result) := by
  cases proceeds with
  | unread error failed => cases failed.symm.trans starts.read
  | settled other read nothing =>
      cases read.symm.trans starts.read
      exact absurd nothing starts.waiting
  | rejected other error read waiting failed => cases failed.symm.trans starts.judged
  | started other checksums attempts result begun inTurn brackets =>
      obtain ⟨sameFound, sameRecorded⟩ := starts.unique begun
      subst sameFound sameRecorded
      exact ⟨attempts, inTurn, applied_between .., logged_between ..⟩

theorem starts_of_ok (proceeds : Proceeds timed server state trace result)
    {found : List MigrationRecord} (read : (readHistory server state).result = .ok found)
    (waiting : pending found ≠ []) (succeeded : result = .ok ()) :
    ∃ recorded, Starts server state found recorded := by
  cases proceeds with
  | unread error failed => cases failed.symm.trans read
  | settled other also nothing =>
      cases also.symm.trans read
      exact absurd nothing waiting
  | rejected other error also waiting failed => cases succeeded
  | started other recorded attempts result starts inTurn brackets =>
      cases starts.read.symm.trans read
      exact ⟨recorded, starts⟩

theorem announced_iff (proceeds : Proceeds timed server state trace result) :
    logged completionMessage trace ≠ [] ↔ (∃ found, (readHistory server state).result = .ok found ∧
      pending found ≠ []) ∧ result = .ok () := by
  have reads : logged completionMessage (readHistory server state).trace = [] :=
    logged_eq_nil (asks_readHistory server state).unnoted
  cases proceeds with
  | unread error failed =>
      refine iff_of_false (not_not_intro reads) ?_
      rintro ⟨_, impossible⟩
      cases impossible
  | settled found read nothing =>
      rw [logged_append, reads]
      refine iff_of_false (not_not_intro rfl) ?_
      rintro ⟨⟨other, also, waiting⟩, _⟩
      cases read.symm.trans also
      exact waiting nothing
  | rejected found error read waiting failed =>
      rw [logged_append, logged_append, reads, logged_pendingNotes (by decide),
        logged_eq_nil (asks_judgeHistory server state).unnoted]
      refine iff_of_false (not_not_intro rfl) ?_
      rintro ⟨_, impossible⟩
      cases impossible
  | started found recorded attempts result starts inTurn brackets =>
      rw [logged_between]
      cases result with
      | ok =>
          exact iff_of_true (List.cons_ne_nil _ _) ⟨⟨found, starts.read, starts.waiting⟩, rfl⟩
      | error error =>
          refine iff_of_false (not_not_intro rfl) ?_
          rintro ⟨_, impossible⟩
          cases impossible

theorem advances (proceeds : Proceeds timed server state trace result) :
    Advances server state trace result where
  idle := proceeds.idle
  ascending _ _ _ := known_ascending.filter _
  committed found recorded starts := by
    obtain ⟨attempts, inTurn, same, _⟩ := proceeds.attempts starts
    rw [same]
    exact inTurn.committed
  complete found read waiting succeeded := by
    obtain ⟨recorded, starts⟩ := proceeds.starts_of_ok read waiting succeeded
    obtain ⟨attempts, inTurn, same, _⟩ := proceeds.attempts starts
    refine ⟨recorded, starts, ?_⟩
    rw [same]
    exact inTurn.committed_all succeeded
  announced := proceeds.announced_iff
  counted found recorded starts agree succeeded := by
    obtain ⟨attempts, inTurn, same, announced⟩ := proceeds.attempts starts
    rw [announced, same, inTurn.committed_all succeeded, pending_eq_missing agree, succeeded]
    rfl

end Proceeds

/-- Whatever the server answers, and whatever it says to the times, the migrations that are
committed are the first ones of those that the migrator finds missing, each in a transaction of its
own. The first failure ends it all. -/
theorem commits_in_order (server : Server σ) (timed : Migration → Except ServerError Unit)
    (state : σ) :
    let run := (migrateTimed timed).run server state
    Proceeds timed server state run.trace run.result ∧ Advances server state run.trace run.result ∧
      migrateTimed (fun _ => .ok ()) = migrate := by
  intro run
  have proceeds := run_migrateTimed timed server state
  exact ⟨proceeds, proceeds.advances, migrateTimed_stored⟩

def syntaxFault : ServerError :=
  ⟨"42601", "syntax error"⟩

def haltingServer (version : Int64) : Server HistoryTable :=
  { HistoryTable.server.toServer with
    answer := fun statement table =>
      match statement with
      | .applyMigration migration =>
          if migration.version = version then (.error syntaxFault, table)
          else (.ok (.affected 0), table)
      | other => HistoryTable.answer other table }

def unmigrated : HistoryTable where
  rows? := none
  saved? := none

theorem commits_in_order_halted :
    let run := migrate.run (haltingServer ruptureFieldsVersion) unmigrated
    run.result = .error (.refused ruptureFieldsVersion (.server syntaxFault)) ∧
      missing [] known = known ∧ applied run.trace = known.take 1 ∧
      applied run.trace <+: missing [] known ∧ logged completionMessage run.trace = [] := by
  obtain ⟨_, advances, stored⟩ :=
    commits_in_order (haltingServer ruptureFieldsVersion) (fun _ => .ok ()) unmigrated
  rw [stored] at advances
  have starts : Starts (haltingServer ruptureFieldsVersion) unmigrated [] [] :=
    ⟨rfl, List.cons_ne_nil _ _, rfl⟩
  have failed : (migrate.run (haltingServer ruptureFieldsVersion) unmigrated).result =
      .error (.refused ruptureFieldsVersion (.server syntaxFault)) := rfl
  refine ⟨failed, rfl, rfl, advances.committed [] [] starts, ?_⟩
  by_contra announced
  obtain ⟨_, succeeded⟩ := advances.announced.1 announced
  cases failed.symm.trans succeeded

end Consequences

end Migration

end HazardStore
