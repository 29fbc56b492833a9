import HazardStore.Program.Command
import HazardStore.Proofs.Json.Printed
import HazardStore.Proofs.Migration.Runs
/-!
What is printed about a migration. The status tells of it what is recorded under its version; its
line shows one of three words for that, and its document says the same by a flag and an instant.
-/

namespace HazardStore

namespace Migration

section Records

variable (records : List MigrationRecord) (migration : Migration)

/-- The status says of a migration what is recorded under its version. -/
structure Entry (status : MigrationStatus) : Prop where
  version : status.version = migration.version
  description : status.description = migration.description
  applied_iff : status.applied = true ↔
    ∃ record ∈ records, record.version = migration.version ∧ record.success = true
  installed_iff : ∀ instant, status.installedOn? = some instant ↔
    ∃ record ∈ records, record.version = migration.version ∧ record.installedOn = instant

variable {records}

theorem entry_statusOf (distinct : (records.map MigrationRecord.version).Nodup) :
    Entry records migration (statusOf records migration) where
  version := rfl
  description := rfl
  applied_iff := by
    simp only [statusOf, Option.any_eq_true, find?_eq_some_iff_of_distinct distinct, and_assoc]
  installed_iff instant := by
    simp only [statusOf, Option.map_eq_some_iff, find?_eq_some_iff_of_distinct distinct, and_assoc]

variable {migration} {status : MigrationStatus}

theorem Entry.applied_eq (entry : Entry records migration status) :
    status.applied = isApplied records migration := by
  rw [Bool.eq_iff_iff, entry.applied_iff]
  simp only [isApplied, List.any_eq_true, Bool.and_eq_true, decide_eq_true_eq]

theorem Entry.installed_eq_none_iff (entry : Entry records migration status) :
    status.installedOn? = none ↔ ∀ record ∈ records, record.version ≠ migration.version := by
  rw [Option.eq_none_iff_forall_not_mem]
  constructor
  · intro nothing record there same
    exact nothing record.installedOn ((entry.installed_iff _).2 ⟨record, there, same, rfl⟩)
  · intro nothing instant installed
    obtain ⟨record, there, same, _⟩ := (entry.installed_iff instant).1 installed
    exact nothing record there same

theorem Entry.installed_of_applied (entry : Entry records migration status)
    (applied : status.applied = true) : status.installedOn? ≠ none := by
  intro nothing
  obtain ⟨record, there, same, _⟩ := entry.applied_iff.1 applied
  exact entry.installed_eq_none_iff.1 nothing record there same

/-- The one record of a migration is the failure of a status that is installed but not applied. -/
theorem Entry.failed_iff (entry : Entry records migration status)
    (distinct : (records.map MigrationRecord.version).Nodup) :
    status.installedOn? ≠ none ∧ status.applied = false ↔
      ∃ record ∈ records, record.version = migration.version ∧ record.success = false := by
  constructor
  · rintro ⟨installed, unapplied⟩
    obtain ⟨instant, on⟩ := Option.ne_none_iff_exists'.1 installed
    obtain ⟨record, there, same, _⟩ := (entry.installed_iff instant).1 on
    refine ⟨record, there, same, ?_⟩
    by_contra successful
    have applied := entry.applied_iff.2 ⟨record, there, same, eq_true_of_ne_false successful⟩
    rw [unapplied] at applied
    cases applied
  · rintro ⟨record, there, same, failed⟩
    constructor
    · intro nothing
      exact entry.installed_eq_none_iff.1 nothing record there same
    · rw [Bool.eq_false_iff]
      intro applied
      obtain ⟨other, also, alike, successful⟩ := entry.applied_iff.1 applied
      rw [List.inj_on_of_nodup_map distinct there also (same.trans alike.symm), successful] at failed
      cases failed

end Records

end Migration

def Json.Document.field? (name : String) : Json.Document → Option Json.Document
  | .record fields => fields.lookup name
  | _ => none

namespace MigrationStatus

open Text

variable (status : MigrationStatus)

theorem line_carries : Carries [toString status.version, status.state, status.description]
    status.line :=
  (Carries.self (toString status.version)).followed _ |>.followed _
    |>.append ((Carries.self status.state).followed _) |>.followed _
    |>.part status.description |>.followed _

/-- What is listed as a document are the documents of all migrations and nothing else. -/
theorem statusText_shows (statuses : List MigrationStatus) :
    Shows Json.Layout (Json.Document.list (statuses.map document)).tokens
      (Command.statusText true statuses) :=
  (Json.Document.pretty_shows 0 _).fill (fun _ feed => Or.inr (List.mem_singleton.1 feed))

/-- A line shows a word between the version and a blank. -/
def Reads (word : String) : Prop :=
  ∃ rest, status.line =
    filled 16 (toString status.version) ++ " " ++ (word ++ " " ++ rest)

def word : String :=
  match status.installedOn? with
  | none => "pending"
  | some _ => if status.applied then "applied" else "failed"

theorem word_eq_pending_iff : status.word = "pending" ↔ status.installedOn? = none := by
  obtain ⟨version, description, applied, installedOn?⟩ := status
  cases installedOn? <;> cases applied <;> simp [word]

theorem word_eq_applied_iff :
    status.word = "applied" ↔ status.installedOn? ≠ none ∧ status.applied = true := by
  obtain ⟨version, description, applied, installedOn?⟩ := status
  cases installedOn? <;> cases applied <;> simp [word]

theorem word_eq_failed_iff :
    status.word = "failed" ↔ status.installedOn? ≠ none ∧ status.applied = false := by
  obtain ⟨version, description, applied, installedOn?⟩ := status
  cases installedOn? <;> cases applied <;> simp [word]

theorem word_solid : ' ' ∉ status.word.toList := by
  obtain ⟨version, description, applied, installedOn?⟩ := status
  cases installedOn? <;> cases applied <;> simp [word]

theorem filled_state : ∃ rest, filled 24 status.state = status.word ++ " " ++ rest := by
  obtain ⟨version, description, applied, installedOn?⟩ := status
  cases installedOn? with
  | none =>
      refine ⟨"                ", ?_⟩
      change filled 24 "pending" = "pending" ++ " " ++ "                "
      decide
  | some instant =>
      cases applied with
      | false =>
          refine ⟨"                 ", ?_⟩
          change filled 24 "failed" = "failed" ++ " " ++ "                 "
          decide
      | true =>
          refine ⟨instant.tableText ++ String.ofList (List.replicate
            (24 - ("applied " ++ instant.tableText).length) ' '), ?_⟩
          change ("applied " ++ instant.tableText) ++ _ = "applied " ++ (instant.tableText ++ _)
          exact String.append_assoc

theorem reads_word : status.Reads status.word := by
  obtain ⟨rest, same⟩ := status.filled_state
  refine ⟨rest ++ " " ++ status.description ++ "\n", ?_⟩
  unfold line
  rw [same]
  simp only [String.append_assoc]

theorem takeWhile_word {word : String} (solid : ' ' ∉ word.toList) (rest : String) :
    (word ++ " " ++ rest).toList.takeWhile (· ≠ ' ') = word.toList := by
  have before (character : Char) (member : character ∈ word.toList) :
      decide (character ≠ ' ') = true :=
    decide_eq_true (fun blank => solid (blank ▸ member))
  rw [String.append_assoc, String.toList_append, List.takeWhile_append_of_pos before,
    String.toList_append]
  simp

theorem reads_iff {word : String} (solid : ' ' ∉ word.toList) :
    status.Reads word ↔ status.word = word := by
  constructor
  · rintro ⟨others, shown⟩
    obtain ⟨rest, also⟩ := status.reads_word
    have same := (String.append_right_inj _).1 (also.symm.trans shown)
    have words := congrArg (fun text => text.toList.takeWhile (· ≠ ' ')) same
    simp only [takeWhile_word status.word_solid, takeWhile_word solid] at words
    exact String.toList_inj.1 words
  · intro same
    rw [← same]
    exact status.reads_word

theorem document_applied :
    status.document.field? "applied" = some (.boolean status.applied) :=
  rfl

theorem document_installed : status.document.field? "installed_on" =
    some (status.installedOn?.elim .null (fun instant => .text instant.interchangeText)) :=
  rfl

end MigrationStatus

namespace Migration

/-- What is printed of a migration, in either form, tells what is recorded of it. -/
structure Printed (records : List MigrationRecord) (migration : Migration)
    (status : MigrationStatus) : Prop where
  applied_iff : status.Reads "applied" ↔ status.applied = true
  failed_iff : status.Reads "failed" ↔
    ∃ record ∈ records, record.version = migration.version ∧ record.success = false
  pending_iff : status.Reads "pending" ↔ ∀ record ∈ records, record.version ≠ migration.version
  document_applied : status.document.field? "applied" = some (.boolean true) ↔
    status.Reads "applied"
  document_unapplied : status.document.field? "applied" = some (.boolean false) ↔
    ¬status.Reads "applied"
  document_absent : status.document.field? "installed_on" = some .null ↔ status.Reads "pending"

section Printing

variable {records : List MigrationRecord} {migration : Migration} {status : MigrationStatus}

theorem Entry.reads_applied_iff (entry : Entry records migration status) :
    status.Reads "applied" ↔ status.applied = true := by
  rw [status.reads_iff (by decide), status.word_eq_applied_iff]
  exact and_iff_right_of_imp entry.installed_of_applied

theorem Entry.printed (entry : Entry records migration status)
    (distinct : (records.map MigrationRecord.version).Nodup) : Printed records migration status where
  applied_iff := entry.reads_applied_iff
  failed_iff := by
    rw [status.reads_iff (by decide), status.word_eq_failed_iff, entry.failed_iff distinct]
  pending_iff := by
    rw [status.reads_iff (by decide), status.word_eq_pending_iff, entry.installed_eq_none_iff]
  document_applied := by
    rw [entry.reads_applied_iff, status.document_applied, Option.some_inj,
      Json.Document.boolean.injEq]
  document_unapplied := by
    rw [entry.reads_applied_iff, Bool.not_eq_true, status.document_applied, Option.some_inj,
      Json.Document.boolean.injEq]
  document_absent := by
    rw [status.reads_iff (by decide), status.word_eq_pending_iff, status.document_installed]
    cases status.installedOn? <;> simp

end Printing

end Migration

end HazardStore
