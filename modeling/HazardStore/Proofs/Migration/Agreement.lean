import HazardStore.Proofs.Migration.History
/-!
Bringing the schema up to date beside the migrator itself. Both apply the same migrations and leave
the server alike. While a known migration has no success on record they also end alike; afterwards
only the migrator still judges the history, and what it finds amiss goes unnoticed.
-/

namespace HazardStore

namespace Migration

def Settled (rows : List HistoryRow) : Prop :=
  ∀ migration ∈ known, ∃ row ∈ rows, row.version = migration.version ∧ row.success = true

structure Faultless (rows : List HistoryRow) : Prop where
  finished : ∀ row ∈ rows, row.success = true
  expected : ∀ row ∈ rows, ∃ migration ∈ known, migration.version = row.version
  unaltered : ∀ row ∈ rows, row.scriptKnown = true

/-- What the migrator makes of a history in which every known migration is recorded: a failure comes
before an unknown version, and that before an altered script. -/
inductive Verdict (rows : List HistoryRow) : Except MigrationError Unit → Prop where
  | unfinished (row : HistoryRow) (there : row ∈ rows) (failed : row.success = false) :
      Verdict rows (.error (.unfinished row.version))
  | unknown (row : HistoryRow) (there : row ∈ rows)
      (finished : ∀ row ∈ rows, row.success = true)
      (stray : ∀ migration ∈ known, migration.version ≠ row.version) :
      Verdict rows (.error (.unknown row.version))
  | altered (row : HistoryRow) (there : row ∈ rows)
      (finished : ∀ row ∈ rows, row.success = true)
      (expected : ∀ row ∈ rows, ∃ migration ∈ known, migration.version = row.version)
      (changed : row.scriptKnown = false) : Verdict rows (.error (.altered row.version))
  | accepted (faultless : Faultless rows) : Verdict rows (.ok ())

theorem Verdict.ok_iff {rows : List HistoryRow} {result : Except MigrationError Unit}
    (verdict : Verdict rows result) : result = .ok () ↔ Faultless rows := by
  cases verdict with
  | unfinished row there failed =>
      apply iff_of_false (fun impossible => nomatch impossible)
      intro faultless
      rw [faultless.finished row there] at failed
      cases failed
  | unknown row there finished stray =>
      apply iff_of_false (fun impossible => nomatch impossible)
      intro faultless
      obtain ⟨migration, member, same⟩ := faultless.expected row there
      exact stray migration member same
  | altered row there finished expected changed =>
      apply iff_of_false (fun impossible => nomatch impossible)
      intro faultless
      rw [faultless.unaltered row there] at changed
      cases changed
  | accepted faultless => exact iff_of_true rfl faultless

section Recorded

variable {migrations : List Migration} {recorded : List RecordedChecksum}

theorem firstUnknown?_eq_some {checksum : RecordedChecksum}
    (found : firstUnknown? migrations recorded = some checksum) :
    checksum ∈ recorded ∧ ∀ migration ∈ migrations, migration.version ≠ checksum.version := by
  have stray := List.find?_some found
  refine ⟨List.mem_of_find?_eq_some found, ?_⟩
  intro migration member same
  simp only [Bool.not_eq_true', List.any_eq_false, decide_eq_true_eq] at stray
  exact stray migration member same

theorem firstUnknown?_eq_none (nothing : firstUnknown? migrations recorded = none) :
    ∀ checksum ∈ recorded, ∃ migration ∈ migrations, migration.version = checksum.version := by
  intro checksum member
  have expected := List.find?_eq_none.1 nothing checksum member
  simpa using expected

theorem firstAltered?_eq_some {migration : Migration}
    (found : firstAltered? recorded migrations = some migration) :
    ∃ checksum ∈ recorded, checksum.version = migration.version ∧ checksum.isKnown = false := by
  have changed := List.find?_some found
  cases there : recordedFor? recorded migration.version with
  | none =>
      rw [there] at changed
      cases changed
  | some checksum =>
      rw [there, Option.any_some] at changed
      have sameVersion := List.find?_some there
      exact ⟨checksum, List.mem_reverse.1 (List.mem_of_find?_eq_some there),
        of_decide_eq_true sameVersion, (Bool.not_eq_true' _).mp changed⟩

theorem firstAltered?_eq_none (nothing : firstAltered? recorded migrations = none)
    (distinct : (recorded.map RecordedChecksum.version).Nodup)
    (expected : ∀ checksum ∈ recorded, ∃ migration ∈ migrations,
      migration.version = checksum.version) :
    ∀ checksum ∈ recorded, checksum.isKnown = true := by
  intro checksum there
  obtain ⟨migration, member, same⟩ := expected checksum there
  have unaltered := List.find?_eq_none.1 nothing migration member
  rw [same, recordedFor?_of_mem distinct there] at unaltered
  simpa using unaltered

end Recorded

structure Judges {σ : Type} (rows : List HistoryRow) (state : σ)
    (run : Run σ MigrationError Unit) : Prop where
  verdict : Verdict rows run.result
  untouched : run.state = state
  quiet : ∀ event ∈ run.trace, event.isQuiet = true

section Settling

variable {σ : Type} (server : HistoryServer σ) (state : σ) {rows : List HistoryRow}

theorem run_migrateAll (migrations : List Migration) :
    (migrateAll migrations).run server.toServer state =
      ((Session.ofDialogue (recordedChecksums migrations)).run server.toServer state).andThen
        (fun recorded => (applyAll recorded migrations).run server.toServer) :=
  Session.run_bind ..

theorem judges_of_failed (there : server.history? state = some rows)
    (failed : ∃ row ∈ rows, row.success = false) :
    Judges rows state ((migrateAll known).run server.toServer state) := by
  obtain ⟨row, member, unsuccessful, judged⟩ :=
    server.run_recordedChecksums_of_failed state known there failed
  rw [run_migrateAll, judged]
  exact ⟨.unfinished row member unsuccessful, rfl, by simp [Run.andThen, Event.isQuiet,
    Statement.applies?]⟩

theorem judges_of_finished (there : server.history? state = some rows)
    (distinct : (rows.map (fun row => row.version)).Nodup) (settled : Settled rows)
    (finished : ∀ row ∈ rows, row.success = true) :
    Judges rows state ((migrateAll known).run server.toServer state) := by
  obtain ⟨listed, same, judged⟩ :=
    server.run_recordedChecksums_of_finished state known there finished
  have mem_iff (checksum : RecordedChecksum) :
      checksum ∈ listed.map HistoryRow.checksum ↔ ∃ row ∈ rows, row.checksum = checksum := by
    rw [List.mem_map]
    exact exists_congr (fun row => and_congr_left' same.mem_iff)
  have reads : ∀ event ∈ [Event.sent .failedMigration, .sent .recordedChecksums],
      event.isQuiet = true := by simp [Event.isQuiet, Statement.applies?]
  rw [run_migrateAll, judged]
  -- versions are looked at before any script is compared
  cases unknown : firstUnknown? known (listed.map HistoryRow.checksum) with
  | some checksum =>
      obtain ⟨member, stray⟩ := firstUnknown?_eq_some unknown
      obtain ⟨row, rowThere, equal⟩ := (mem_iff checksum).1 member
      subst equal
      exact ⟨.unknown row rowThere finished stray, rfl, reads⟩
  | none =>
      have allExpected := firstUnknown?_eq_none unknown
      have expected (row : HistoryRow) (rowThere : row ∈ rows) :
          ∃ migration ∈ known, migration.version = row.version :=
        allExpected row.checksum ((mem_iff _).2 ⟨row, rowThere, rfl⟩)
      have listedDistinct : ((listed.map HistoryRow.checksum).map
          RecordedChecksum.version).Nodup := by
        rw [List.map_map]
        exact ((same.map _).nodup_iff).2 distinct
      have recorded : ∀ migration ∈ known,
          (recordedFor? (listed.map HistoryRow.checksum) migration.version).isSome = true := by
        intro migration member
        obtain ⟨row, rowThere, version, _⟩ := settled migration member
        rw [← version]
        change (recordedFor? _ row.checksum.version).isSome = true
        rw [recordedFor?_of_mem listedDistinct ((mem_iff _).2 ⟨row, rowThere, rfl⟩)]
        rfl
      simp only [Run.andThen, run_applyAll_of_recorded server.toServer state _ known recorded]
      cases altered : firstAltered? (listed.map HistoryRow.checksum) known with
      | some migration =>
          obtain ⟨checksum, member, version, changed⟩ := firstAltered?_eq_some altered
          obtain ⟨row, rowThere, equal⟩ := (mem_iff checksum).1 member
          subst equal
          dsimp only
          rw [← version]
          exact ⟨.altered row rowThere finished expected changed, rfl, reads⟩
      | none =>
          have unaltered := firstAltered?_eq_none altered listedDistinct allExpected
          refine ⟨.accepted ⟨finished, expected, ?_⟩, rfl, reads⟩
          intro row rowThere
          exact unaltered row.checksum ((mem_iff _).2 ⟨row, rowThere, rfl⟩)

theorem judges_of_settled (there : server.history? state = some rows)
    (distinct : (rows.map (fun row => row.version)).Nodup) (settled : Settled rows) :
    Judges rows state ((migrateAll known).run server.toServer state) := by
  by_cases finished : ∀ row ∈ rows, row.success = true
  · exact judges_of_finished server state there distinct settled finished
  · apply judges_of_failed server state there
    rw [not_forall₂] at finished
    obtain ⟨row, member, unsuccessful⟩ := finished
    exact ⟨row, member, Bool.eq_false_iff.2 unsuccessful⟩

theorem pending_eq_nil_iff_settled {listed : List HistoryRow} (same : listed.Perm rows) :
    pending (listed.map HistoryRow.toMigrationRecord) = [] ↔ Settled rows := by
  rw [pending_eq_nil_iff]
  constructor
  · intro recorded migration member
    obtain ⟨record, there, holds⟩ := recorded migration member
    obtain ⟨row, rowThere, equal⟩ := List.mem_map.1 there
    subst equal
    exact ⟨row, same.mem_iff.1 rowThere, holds⟩
  · intro settled migration member
    obtain ⟨row, there, holds⟩ := settled migration member
    exact ⟨row.toMigrationRecord, List.mem_map_of_mem (same.mem_iff.2 there), holds⟩

theorem history_of_settled (settled : Settled (server.rows state)) :
    server.history? state = some (server.rows state) := by
  unfold HistoryServer.rows at settled ⊢
  cases there : server.history? state with
  | some rows => rfl
  | none =>
      rw [there] at settled
      obtain ⟨row, impossible, _⟩ := settled _ (List.mem_cons_self ..)
      cases impossible

end Settling

/-- How a run that starts the migrator only when something is pending compares with the run of the
migrator. -/
structure Agreement {σ : Type} (rows : List HistoryRow)
    (direct guarded : Run σ MigrationError Unit) : Prop where
  migrations : applied guarded.trace = applied direct.trace
  state : guarded.state = direct.state
  waiting : ¬Settled rows → guarded.result = direct.result
  settled : Settled rows → guarded.result = .ok () ∧ applied guarded.trace = [] ∧
    Verdict rows direct.result
  alike_iff : guarded.result = direct.result ↔ (Settled rows → Faultless rows)

theorem Agreement.of_settled {σ : Type} {rows : List HistoryRow}
    {direct guarded : Run σ MigrationError Unit} {state : σ} (settled : Settled rows)
    (judges : Judges rows state direct) (untouched : guarded.state = state)
    (succeeded : guarded.result = .ok ()) (quiet : ∀ event ∈ guarded.trace, event.isQuiet = true) :
    Agreement rows direct guarded where
  migrations := (applied_quiet quiet).trans (applied_quiet judges.quiet).symm
  state := untouched.trans judges.untouched.symm
  waiting unsettled := absurd settled unsettled
  settled _ := ⟨succeeded, applied_quiet quiet, judges.verdict⟩
  alike_iff := by
    rw [succeeded, eq_comm, judges.verdict.ok_iff]
    exact (imp_iff_right settled).symm

/-- Bringing the schema up to date applies what the migrator would and leaves the server as the
migrator would. It ends as the migrator would, except that it passes over the faults of a history in
which every known migration succeeded. -/
theorem migrate_agrees {σ : Type} (server : HistoryServer σ) (state : σ)
    (distinct : ((server.rows state).map (fun row => row.version)).Nodup) :
    Agreement (server.rows state) ((migrateAll known).run server.toServer state)
      (migrate.run server.toServer state) := by
  obtain ⟨listed, same, read⟩ := server.run_records (ε := MigrationError) state
  by_cases nothing : pending (listed.map HistoryRow.toMigrationRecord) = []
  · have settled := (pending_eq_nil_iff_settled same).1 nothing
    rw [run_migrate_of_settled _ _ _ _ _ nothing read]
    apply Agreement.of_settled settled
      (judges_of_settled server state (history_of_settled server state settled) distinct settled)
      rfl rfl
    intro event member
    rcases List.mem_append.1 member with asked | noted
    · exact server.reading_quiet state event asked
    · rw [List.mem_singleton.1 noted]
      rfl
  · have waiting : ¬Settled (server.rows state) :=
      fun settled => nothing ((pending_eq_nil_iff_settled same).2 settled)
    rw [run_migrate_of_pending _ _ _ _ _ nothing read]
    refine ⟨?_, rfl, fun _ => rfl, fun settled => absurd settled waiting, ?_⟩
    · dsimp only [applied]
      rw [appliedIn_quiet_append none (server.reading_quiet state),
        appliedIn_quiet_append none (pendingNotes_quiet _),
        appliedIn_append_quiet _ _ (completion_quiet _ _)]
    · exact iff_of_true rfl (fun settled => absurd settled waiting)

def baselineTable : HistoryTable where
  rows? := some ((known.take 1).map .ofSuccess)
  saved? := none

theorem migrate_agrees_baseline :
    (baselineTable.rows.map (fun row => row.version)).Nodup ∧
      (migrate.run HistoryTable.server.toServer baselineTable).result = .ok () ∧
      applied (migrate.run HistoryTable.server.toServer baselineTable).trace = known.drop 1 := by
  have distinct : (baselineTable.rows.map (fun row => row.version)).Nodup := by decide +kernel
  have agreement := migrate_agrees HistoryTable.server baselineTable distinct
  have waiting : ¬Settled baselineTable.rows := by
    intro settled
    obtain ⟨row, there, version, _⟩ := settled _ (List.mem_cons_of_mem _ (List.mem_cons_self ..))
    rw [List.mem_singleton.1 there] at version
    exact absurd version (by decide)
  refine ⟨distinct, ?_, ?_⟩
  · rw [agreement.waiting waiting]
    rfl
  · rw [agreement.migrations]
    rfl

/-- Every known migration succeeded, and so did one that nobody knows. -/
def strayTable : HistoryTable where
  rows? := some (known.map .ofSuccess ++ [⟨⟨20150101000000, "later", ⟨0⟩, true⟩, false⟩])
  saved? := none

def alteredTable : HistoryTable where
  rows? := some (known.map (fun migration =>
    { HistoryRow.ofSuccess migration with scriptKnown := migration.version != ruptureFieldsVersion }))
  saved? := none

/-- The migrator refuses an unknown version and an altered script where bringing the schema up to
date succeeds. -/
theorem migrate_passes_over :
    (strayTable.rows.map (fun row => row.version)).Nodup ∧
      (migrate.run HistoryTable.server.toServer strayTable).result = .ok () ∧
      ((migrateAll known).run HistoryTable.server.toServer strayTable).result =
        .error (.unknown 20150101000000) ∧
      (alteredTable.rows.map (fun row => row.version)).Nodup ∧
      (migrate.run HistoryTable.server.toServer alteredTable).result = .ok () ∧
      ((migrateAll known).run HistoryTable.server.toServer alteredTable).result =
        .error (.altered ruptureFieldsVersion) := by
  refine ⟨by decide +kernel, rfl, rfl, by decide +kernel, rfl, rfl⟩

end Migration

end HazardStore
