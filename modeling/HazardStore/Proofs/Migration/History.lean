import Mathlib.Data.List.Sort
import HazardStore.Proofs.Migration.Runs
/-!
A history as a server keeps it, and what reading it comes to. The rows are answered in any order;
the records, the failed migrations and the checksums are three readings of the same rows.
-/

namespace HazardStore

/-- What the history holds about a migration: its record, and whether the script that it was
recorded with is the known one. -/
structure HistoryRow extends MigrationRecord where
  scriptKnown : Bool
deriving DecidableEq

namespace HistoryRow

def checksum (row : HistoryRow) : RecordedChecksum :=
  ⟨row.version, row.scriptKnown⟩

def recordCells (row : HistoryRow) : Cells Statement.historyColumns :=
  (some row.version, some row.description, some row.installedOn, some row.success, ())

def versionCells (row : HistoryRow) : Cells [.bigInteger] :=
  (some row.version, ())

def checksumCells (row : HistoryRow) : Cells [.bigInteger, .checksum] :=
  (some row.version, some row.scriptKnown, ())

def ofSuccess (migration : Migration) : HistoryRow where
  version := migration.version
  description := migration.description
  installedOn := ⟨0⟩
  success := true
  scriptKnown := true

theorem decode_recordCells (row : HistoryRow) :
    MigrationRecord.decode row.recordCells = .ok row.toMigrationRecord :=
  rfl

theorem decode_versionCells (row : HistoryRow) :
    Migration.decodeVersion row.versionCells = .ok row.version :=
  rfl

theorem decode_checksumCells (row : HistoryRow) :
    RecordedChecksum.decode row.checksumCells = .ok row.checksum :=
  rfl

end HistoryRow

/-- A server that keeps a history, or that has no table for one. -/
structure HistoryServer (σ : Type) extends Server σ where
  history? : σ → Option (List HistoryRow)
  exists_answer : ∀ state,
    answer .historyExists state = (.ok (.rows [(some (history? state).isSome, ())]), state)
  record_rows : ∀ state rows, history? state = some rows →
    ∃ listed : List HistoryRow, listed.Perm rows ∧
      answer .history state = (.ok (.rows (listed.map HistoryRow.recordCells)), state)
  failed_rows : ∀ state rows, history? state = some rows →
    ∃ listed : List HistoryRow, listed.Perm rows ∧
      answer .failedMigration state =
        (.ok (.rows (((listed.filter (fun row => !row.success)).take 1).map
          HistoryRow.versionCells)), state)
  checksum_rows : ∀ state rows, history? state = some rows →
    ∃ listed : List HistoryRow, listed.Perm rows ∧
      answer .recordedChecksums state =
        (.ok (.rows (listed.map HistoryRow.checksumCells)), state)

namespace HistoryServer

variable {σ ε : Type} (server : HistoryServer σ) (state : σ)

def rows : List HistoryRow :=
  (server.history? state).getD []

def reading : List Event :=
  .sent .historyExists :: if (server.history? state).isSome then [.sent .history] else []

theorem reading_quiet : ∀ event ∈ server.reading state, event.isQuiet = true := by
  unfold reading
  cases server.history? state with
  | none => simp [Event.isQuiet, Statement.applies?]
  | some rows => simp [Event.isQuiet, Statement.applies?]

theorem answeredTable_eq :
    Migration.answeredTable server.toServer state = .ok (server.history? state).isSome := by
  unfold Migration.answeredTable
  rw [server.exists_answer]
  rfl

theorem run_records [OfFault ε] : ∃ listed : List HistoryRow, listed.Perm (server.rows state) ∧
    (Session.ofDialogue (Migration.records : Dialogue ε _)).run server.toServer state =
      ⟨.ok (listed.map HistoryRow.toMigrationRecord), state, server.reading state⟩ := by
  have table := server.answeredTable_eq state
  unfold reading rows
  cases there : server.history? state with
  | none =>
      rw [there] at table
      refine ⟨[], List.Perm.refl _, ?_⟩
      rw [Migration.run_records_of_absent server.toServer state table, server.exists_answer]
      rfl
  | some rows =>
      rw [there] at table
      obtain ⟨listed, same, answered⟩ := server.record_rows state rows there
      refine ⟨listed, same, ?_⟩
      rw [Migration.run_records_of_there server.toServer state table, server.exists_answer,
        answered]
      exact congrArg (fun read => Run.mk (Except.mapError OfFault.ofFault read) _ _)
        (Dialogue.decodeAll_map HistoryRow.decode_recordCells listed)

theorem run_recordedChecksums_of_failed (migrations : List Migration) {rows : List HistoryRow}
    (there : server.history? state = some rows) (failed : ∃ row ∈ rows, row.success = false) :
    ∃ row ∈ rows, row.success = false ∧
      (Session.ofDialogue (Migration.recordedChecksums migrations)).run server.toServer state =
        ⟨.error (.unfinished row.version), state, [.sent .failedMigration]⟩ := by
  obtain ⟨listed, same, answered⟩ := server.failed_rows state rows there
  cases failing : listed.filter (fun row => !row.success) with
  | nil =>
      obtain ⟨row, member, unsuccessful⟩ := failed
      have impossible := List.filter_eq_nil_iff.1 failing row (same.mem_iff.2 member)
      rw [unsuccessful] at impossible
      exact absurd rfl impossible
  | cons row others =>
      have among : row ∈ listed.filter (fun row => !row.success) := by
        rw [failing]
        exact List.mem_cons_self ..
      obtain ⟨member, unsuccessful⟩ := List.mem_filter.1 among
      rw [failing] at answered
      have asked : (Session.ofDialogue (Dialogue.first? .failedMigration Migration.decodeVersion) :
          Session MigrationError _).run server.toServer state = _ :=
        Session.run_first?_of_rows _ HistoryRow.decode_versionCells answered
      refine ⟨row, same.mem_iff.1 member, (Bool.not_eq_true' _).mp unsuccessful, ?_⟩
      unfold Migration.recordedChecksums
      rw [Session.ofDialogue_bind, Session.run_bind, asked]
      rfl

/-- Without a failed row the checksums of all rows are read, and the first unknown version
counts. -/
theorem run_recordedChecksums_of_finished (migrations : List Migration) {rows : List HistoryRow}
    (there : server.history? state = some rows) (finished : ∀ row ∈ rows, row.success = true) :
    ∃ listed : List HistoryRow, listed.Perm rows ∧
      (Session.ofDialogue (Migration.recordedChecksums migrations)).run server.toServer state =
        ⟨match Migration.firstUnknown? migrations (listed.map HistoryRow.checksum) with
          | some checksum => .error (.unknown checksum.version)
          | none => .ok (listed.map HistoryRow.checksum),
          state, [.sent .failedMigration, .sent .recordedChecksums]⟩ := by
  obtain ⟨failing, failingSame, failingAnswered⟩ := server.failed_rows state rows there
  have nothing : failing.filter (fun row => !row.success) = [] := by
    rw [List.filter_eq_nil_iff]
    intro row member
    rw [finished row (failingSame.mem_iff.1 member)]
    exact Bool.false_ne_true
  rw [nothing] at failingAnswered
  have first : (Session.ofDialogue (Dialogue.first? .failedMigration Migration.decodeVersion) :
      Session MigrationError _).run server.toServer state =
      ⟨.ok none, state, [.sent .failedMigration]⟩ :=
    Session.run_first?_of_rows _ HistoryRow.decode_versionCells failingAnswered
  obtain ⟨listed, same, answered⟩ := server.checksum_rows state rows there
  have second : (Session.ofDialogue (Dialogue.all .recordedChecksums RecordedChecksum.decode) :
      Session MigrationError _).run server.toServer state = _ :=
    Session.run_all_of_rows _ HistoryRow.decode_checksumCells answered
  refine ⟨listed, same, ?_⟩
  unfold Migration.recordedChecksums
  rw [Session.ofDialogue_bind, Session.run_bind, first, Run.andThen]
  dsimp only
  rw [Session.ofDialogue_bind, Session.run_bind, second, Run.andThen]
  dsimp only
  cases Migration.firstUnknown? migrations (listed.map HistoryRow.checksum) <;> rfl

end HistoryServer

structure HistoryTable where
  rows? : Option (List HistoryRow)
  saved? : Option (List HistoryRow)

namespace HistoryTable

def rows (table : HistoryTable) : List HistoryRow :=
  table.rows?.getD []

/-- The migrator makes the table when there is none. -/
def made (table : HistoryTable) : HistoryTable :=
  { table with rows? := some table.rows }

def missing : ServerError :=
  ⟨"42P01", "relation does not exist"⟩

def duplicate : ServerError :=
  ⟨"23505", "duplicate key value violates unique constraint"⟩

def answer : (statement : Statement) → HistoryTable →
    Except ServerError (Reply statement) × HistoryTable
  | .historyExists, table => (.ok (.rows [(some table.rows?.isSome, ())]), table)
  | .history, table =>
      match table.rows? with
      | some rows => (.ok (.rows (rows.map HistoryRow.recordCells)), table)
      | none => (.error missing, table)
  | .failedMigration, table =>
      (.ok (.rows (((table.rows.filter (fun row => !row.success)).take 1).map
        HistoryRow.versionCells)), table.made)
  | .recordedChecksums, table =>
      (.ok (.rows (table.rows.map HistoryRow.checksumCells)), table.made)
  | .applyMigration _, table => (.ok (.affected 0), table)
  | .recordMigration migration, table =>
      if table.rows.any (fun row => row.version == migration.version) then (.error duplicate, table)
      else
        (.ok (.affected 1), { table with rows? := some (List.orderedInsert
          (fun one two => one.version ≤ two.version) (.ofSuccess migration) table.rows) })
  | _, table => (.error missing, table)

theorem made_of_there {table : HistoryTable} {rows : List HistoryRow}
    (there : table.rows? = some rows) : table.made = table ∧ table.rows = rows := by
  obtain ⟨rows?, saved?⟩ := table
  subst there
  exact ⟨rfl, rfl⟩

def server : HistoryServer HistoryTable where
  answer := answer
  begin table := (.ok (), { table with saved? := table.rows? })
  commit table := (.ok (), table)
  rollback table := { table with rows? := table.saved? }
  history? := HistoryTable.rows?
  exists_answer _ := rfl
  record_rows table rows there := by
    refine ⟨rows, .refl _, ?_⟩
    simp only [answer, there]
  failed_rows table rows there := by
    obtain ⟨unchanged, same⟩ := made_of_there there
    refine ⟨rows, .refl _, ?_⟩
    simp only [answer, unchanged, same]
  checksum_rows table rows there := by
    obtain ⟨unchanged, same⟩ := made_of_there there
    refine ⟨rows, .refl _, ?_⟩
    simp only [answer, unchanged, same]

end HistoryTable

end HazardStore
