import HazardStore.Proofs.Migration.Printed
import HazardStore.Proofs.Migration.Progress
/-!
The status of the migrations beside the run that brings the schema up to date. Both read the same
records: the status looks at the first one of a migration, the run looks for any success among them.
The two agree because no version is recorded twice.
-/

namespace HazardStore

def MigrationRecord.cells (record : MigrationRecord) : Cells Statement.historyColumns :=
  (some record.version, some record.description, some record.installedOn, some record.success, ())

theorem MigrationRecord.decode_cells (record : MigrationRecord) :
    MigrationRecord.decode record.cells = .ok record :=
  rfl

namespace Migration

/-- What the server says about its history: that there is none, or what is recorded there. -/
inductive Reports {σ : Type} (server : Server σ) (state : σ) : List MigrationRecord → Prop where
  | absent (others : List (Cells Statement.historyExists.columns)) (after : σ)
      (answered : server.answer .historyExists state =
        (.ok (.rows ((some false, ()) :: others)), after)) : Reports server state []
  | listed (records : List MigrationRecord) (others : List (Cells Statement.historyExists.columns))
      (between after : σ)
      (there : server.answer .historyExists state =
        (.ok (.rows ((some true, ()) :: others)), between))
      (answered : server.answer .history between =
        (.ok (.rows (records.map MigrationRecord.cells)), after)) : Reports server state records

section Reading

variable {σ ε : Type} [OfFault ε] {server : Server σ} {state : σ}
  {recorded : List MigrationRecord}

theorem Reports.run_records (reports : Reports server state recorded) :
    ∃ after reads, ∀ {ε : Type} [OfFault ε],
      (Session.ofDialogue (records : Dialogue ε _)).run server state =
        ⟨.ok recorded, after, reads⟩ := by
  cases reports with
  | absent others after answered =>
      have table : answeredTable server state = .ok false := by
        unfold answeredTable
        rw [answered]
        rfl
      exact ⟨_, _, fun {ε} _ => run_records_of_absent server state table⟩
  | listed recorded others between after there answered =>
      have table : answeredTable server state = .ok true := by
        unfold answeredTable
        rw [there]
        rfl
      have decoded := Dialogue.decodeAll_map MigrationRecord.decode_cells recorded
      rw [List.map_id'' (fun _ => rfl)] at decoded
      refine ⟨after, [.sent .historyExists, .sent .history], ?_⟩
      intro ε _
      rw [run_records_of_there server state table, there, answered]
      exact congrArg (fun read => Run.mk (Except.mapError OfFault.ofFault read) _ _) decoded

theorem run_status {after : σ} {reads : List Event}
    (read : (Session.ofDialogue (records : Dialogue ε _)).run server state =
      ⟨.ok recorded, after, reads⟩) :
    (Session.ofDialogue (status : Dialogue ε _)).run server state =
      ⟨.ok (known.map (statusOf recorded)), after, reads⟩ := by
  unfold status
  rw [Session.ofDialogue_bind, Session.run_bind, read, Run.andThen_of_ok rfl]
  exact congrArg (Run.mk _ _) (List.append_nil reads)

theorem statusText_lines (statuses : List MigrationStatus) :
    Command.statusText false statuses = String.join (statuses.map MigrationStatus.line) :=
  if_neg Bool.false_ne_true

theorem statusText_documents (statuses : List MigrationStatus) :
    Command.statusText true statuses =
      (Json.Document.list (statuses.map MigrationStatus.document)).pretty 0 ++ "\n" :=
  if_pos rfl

theorem run_statusSession {after : σ} {reads : List Event} (json : Bool)
    (read : (Session.ofDialogue (records : Dialogue Fault _)).run server state =
      ⟨.ok recorded, after, reads⟩) :
    ((Command.statusSession json).run server state).result =
      .ok (Command.statusText json (known.map (statusOf recorded))) := by
  unfold Command.statusSession
  rw [Session.run_mapError, Session.ofDialogue_bind, Session.run_bind, run_status read]
  rfl

end Reading

section Noting

variable {σ : Type} {timed : Migration → Except ServerError Unit} {server : Server σ} {state : σ}
  {trace : List Event} {result : Except MigrationError Unit} {found : List MigrationRecord}

theorem logged_pending (waiting : List Migration) :
    logged pendingMessage (pendingNotes waiting) =
      waiting.map (fun migration => migration.pendingNote.fields) := by
  induction waiting with
  | nil => rfl
  | cons migration others ih =>
      have same : migration.pendingNote.message = pendingMessage := rfl
      exact (logged_noted same _).trans (congrArg (_ :: ·) ih)

theorem logged_pending_completion (count : Nat) (result : Except MigrationError Unit) :
    logged pendingMessage (completion count result) = [] := by
  cases result <;> rfl

theorem Proceeds.logged_pending (proceeds : Proceeds timed server state trace result)
    (read : (readHistory server state).result = .ok found) :
    logged pendingMessage trace =
      (pending found).map (fun migration => migration.pendingNote.fields) := by
  have reads : logged pendingMessage (readHistory server state).trace = [] :=
    logged_eq_nil (asks_readHistory server state).unnoted
  have judges : logged pendingMessage (judgeHistory server state).trace = [] :=
    logged_eq_nil (asks_judgeHistory server state).unnoted
  cases proceeds with
  | unread error failed => cases failed.symm.trans read
  | settled other also nothing =>
      cases also.symm.trans read
      rw [logged_append, reads, nothing]
      rfl
  | rejected other error also waiting failed =>
      cases also.symm.trans read
      rw [logged_append, logged_append, reads, judges, List.nil_append, List.append_nil,
        Migration.logged_pending]
  | started other recorded attempts result starts inTurn brackets =>
      cases starts.read.symm.trans read
      rw [logged_append, logged_append, logged_append, logged_append, reads, judges, logged_events,
        logged_pending_completion, Migration.logged_pending]
      exact List.append_nil _

theorem said_pendingNotes (waiting : List Migration) : said (pendingNotes waiting) = [] := by
  apply List.filter_eq_nil_iff.2
  intro event member
  obtain ⟨entry, same⟩ := mem_pendingNotes member
  rw [same]
  exact Bool.false_ne_true

theorem said_judgeHistory : said (judgeHistory server state).trace ≠ [] := by
  rcases judgeHistory_trace server state with short | long
  · rw [short]
    exact List.cons_ne_nil _ _
  · rw [long]
    exact List.cons_ne_nil _ _

theorem Proceeds.said_eq_iff (proceeds : Proceeds timed server state trace result)
    (read : (readHistory server state).result = .ok found) :
    said trace = said (readHistory server state).trace ↔ pending found = [] := by
  cases proceeds with
  | unread error failed => cases failed.symm.trans read
  | settled other also nothing =>
      cases also.symm.trans read
      rw [said_append]
      exact iff_of_true (List.append_nil _) nothing
  | rejected other error also waiting failed =>
      cases also.symm.trans read
      rw [said_append, said_append, said_pendingNotes, List.nil_append, List.append_right_eq_self]
      exact iff_of_false said_judgeHistory waiting
  | started other recorded attempts result starts inTurn brackets =>
      cases starts.read.symm.trans read
      rw [said_append, said_append, said_append, said_pendingNotes, List.nil_append,
        List.append_right_eq_self]
      exact iff_of_false (List.append_ne_nil_of_left_ne_nil said_judgeHistory _) starts.waiting

theorem Proceeds.ok_of_settled (proceeds : Proceeds timed server state trace result)
    (read : (readHistory server state).result = .ok found) (nothing : pending found = []) :
    result = .ok () := by
  cases proceeds with
  | unread error failed => cases failed.symm.trans read
  | settled other also nothing => rfl
  | rejected other error also waiting failed =>
      cases also.symm.trans read
      exact absurd nothing waiting
  | started other recorded attempts result starts inTurn brackets =>
      cases starts.read.symm.trans read
      exact absurd nothing starts.waiting

end Noting

/-- The same is recorded of the known migrations, in whatever order and beside whatever else. -/
def Alike (one two : List MigrationRecord) : Prop :=
  ∀ record, (∃ migration ∈ known, migration.version = record.version) →
    (record ∈ one ↔ record ∈ two)

theorem map_statusOf_of_alike {one two : List MigrationRecord}
    (distinct : (one.map MigrationRecord.version).Nodup)
    (alsoDistinct : (two.map MigrationRecord.version).Nodup) (alike : Alike one two) :
    known.map (statusOf two) = known.map (statusOf one) := by
  apply List.map_congr_left
  intro migration member
  have found : two.find? (fun record => decide (record.version = migration.version)) =
      one.find? (fun record => decide (record.version = migration.version)) := by
    apply Option.ext
    intro record
    rw [find?_eq_some_iff_of_distinct distinct, find?_eq_some_iff_of_distinct alsoDistinct]
    apply and_congr_left
    intro same
    exact (alike record ⟨migration, member, same.symm⟩).symm
  unfold statusOf
  rw [found]

/-- The status tells of each known migration what is recorded of it, in the order of versions;
bringing the schema up to date goes by the same, and so do both printed forms. -/
structure Reconciled {σ : Type} (server : Server σ) (state : σ) (recorded : List MigrationRecord)
    (statuses : List MigrationStatus) : Prop where
  shown : ((Session.ofDialogue (status : Dialogue Fault _)).run server state).result = .ok statuses
  entries : List.Forall₂ (Entry recorded) known statuses
  ascending : statuses.Pairwise (fun one two => one.version < two.version)
  noted : logged "Pending migration" (migrate.run server state).trace =
    (statuses.filter (fun status => !status.applied)).map (fun status =>
      [("version", .number status.version.toInt), ("description", .text status.description)])
  settled_iff : said (migrate.run server state).trace =
      said ((Session.ofDialogue (status : Dialogue Fault _)).run server state).trace ↔
    ∀ status ∈ statuses, status.applied = true
  finished : (∀ status ∈ statuses, status.applied = true) →
    (migrate.run server state).result = .ok ()
  lines : ((Command.status false).session.run server state).result =
    .ok (String.join (statuses.map MigrationStatus.line))
  documents : ((Command.status true).session.run server state).result =
    .ok ((Json.Document.list (statuses.map MigrationStatus.document)).pretty 0 ++ "\n")
  printed : List.Forall₂ (Printed recorded) known statuses

theorem pending_eq_nil_iff_statuses {recorded : List MigrationRecord}
    (distinct : (recorded.map MigrationRecord.version).Nodup) :
    pending recorded = [] ↔
      ∀ status ∈ known.map (statusOf recorded), status.applied = true := by
  rw [pending_eq_nil_iff, List.forall_mem_map]
  exact forall₂_congr (fun migration _ => (entry_statusOf migration distinct).applied_iff.symm)

theorem pending_fields {recorded : List MigrationRecord}
    (distinct : (recorded.map MigrationRecord.version).Nodup) :
    (pending recorded).map (fun migration => migration.pendingNote.fields) =
      ((known.map (statusOf recorded)).filter (fun status => !status.applied)).map (fun status =>
        [("version", .number status.version.toInt), ("description", .text status.description)]) := by
  have same (migration : Migration) :
      (!isApplied recorded migration) = (!(statusOf recorded migration).applied) :=
    congrArg not (entry_statusOf migration distinct).applied_eq.symm
  rw [List.filter_map, List.map_map]
  unfold pending
  rw [List.filter_congr (fun migration _ => same migration)]
  rfl

theorem reconciled_of_reports {σ : Type} {server : Server σ} {state : σ}
    {recorded : List MigrationRecord} (distinct : (recorded.map MigrationRecord.version).Nodup)
    (reports : Reports server state recorded) :
    Reconciled server state recorded (known.map (statusOf recorded)) := by
  obtain ⟨after, reads, read⟩ := reports.run_records
  have history : readHistory server state = ⟨.ok recorded, after, reads⟩ := read
  have found : (readHistory server state).result = .ok recorded := congrArg Run.result history
  -- How the run proceeds is known whatever is said to the times; here every time is stored.
  have went := run_migrateTimed (fun _ => .ok ()) server state
  rw [migrateTimed_stored] at went
  have entries (migration : Migration) : Entry recorded migration (statusOf recorded migration) :=
    entry_statusOf migration distinct
  have settled := pending_eq_nil_iff_statuses distinct
  constructor
  case shown => exact congrArg Run.result (run_status read)
  case entries =>
    exact List.forall₂_map_right_iff.2 (List.forall₂_same.2 (fun migration _ => entries migration))
  case ascending => exact List.pairwise_map.2 known_ascending
  case noted =>
    rw [← pending_fields distinct]
    exact went.logged_pending found
  case settled_iff => rw [run_status read, ← settled, ← went.said_eq_iff found, history]
  case finished =>
    intro all
    exact went.ok_of_settled found (settled.2 all)
  case lines => exact (run_statusSession false read).trans (congrArg Except.ok (statusText_lines _))
  case documents =>
    exact (run_statusSession true read).trans (congrArg Except.ok (statusText_documents _))
  case printed =>
    exact List.forall₂_map_right_iff.2
      (List.forall₂_same.2 (fun migration _ => (entries migration).printed distinct))

/-- The status of the migrations and the run that brings the schema up to date agree on every answer
that records no version twice. -/
theorem status_reconciled {σ : Type} (server : Server σ) (state : σ)
    (recorded : List MigrationRecord) (distinct : (recorded.map MigrationRecord.version).Nodup)
    (reports : Reports server state recorded) :
    ∃ statuses, Reconciled server state recorded statuses ∧
      ∀ {τ : Type} (other : Server τ) (start : τ) (others : List MigrationRecord),
        (others.map MigrationRecord.version).Nodup → Reports other start others →
          Alike recorded others →
        ((Session.ofDialogue (status : Dialogue Fault _)).run other start).result = .ok statuses := by
  refine ⟨known.map (statusOf recorded), reconciled_of_reports distinct reports, ?_⟩
  intro τ other start others otherDistinct otherReports alike
  rw [← map_statusOf_of_alike distinct otherDistinct alike]
  exact (reconciled_of_reports otherDistinct otherReports).shown

def failedRecords : List MigrationRecord :=
  [⟨20150101000000, "later", ⟨0⟩, true⟩, ⟨ruptureFieldsVersion, "imt gmf rupture", ⟨0⟩, false⟩,
    ⟨baselineVersion, "hzrdr baseline", ⟨0⟩, true⟩]

def failedTable : HistoryTable where
  rows? := some (failedRecords.map (fun record => { record with scriptKnown := true }))
  saved? := none

theorem status_reconciled_failed :
    (failedRecords.map MigrationRecord.version).Nodup ∧
      Reports HistoryTable.server.toServer failedTable failedRecords ∧
      ∃ statuses, Reconciled HistoryTable.server.toServer failedTable failedRecords statuses ∧
        statuses.map MigrationStatus.applied = [true, false] ∧
        statuses.map MigrationStatus.word = ["applied", "failed"] := by
  have distinct : (failedRecords.map MigrationRecord.version).Nodup := by decide +kernel
  have reports : Reports HistoryTable.server.toServer failedTable failedRecords :=
    .listed failedRecords [] failedTable failedTable rfl rfl
  obtain ⟨statuses, reconciled, _⟩ :=
    status_reconciled HistoryTable.server.toServer failedTable failedRecords distinct reports
  have shown : known.map (statusOf failedRecords) = statuses := Except.ok.inj reconciled.shown
  refine ⟨distinct, reports, statuses, reconciled, ?_, ?_⟩
  · rw [← shown]
    decide +kernel
  · rw [← shown]
    decide +kernel

end Migration

end HazardStore
