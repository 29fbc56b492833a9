import HazardStore.Proofs.Measure.Identity
import HazardStore.Proofs.Rupture.Growth
import HazardStore.Proofs.Server.Conditions
/-!
The conditions in the texts against the rows that servers are taken to find: the rows of a rupture,
of an event rupture and of a site, the measures with given components and those that break the
presence rule. The checks and the unique keys of measures stand in the migration that makes their
table.
-/

namespace HazardStore

namespace Parameter

theorem equal_row (left right : RecordId) :
    (row left).equal (row right) = some (left == right) := by
  change some (decide (integer left.toInt = integer right.toInt)) = _
  simp [Int64.toInt_inj, beq_eq_decide]

theorem equal_text (left right : Option String) :
    (left.elim null text).equal (right.elim null text) = Truth.equal (· == ·) left right := by
  cases left with
  | none => rfl
  | some left =>
      cases right with
      | none => rfl
      | some right =>
          change some (decide (text left = text right)) = some (left == right)
          simp [beq_eq_decide]

theorem isNull_double? (value? : Option Double) :
    some (decide (double? value? = null)) = Truth.isNull value? := by
  cases value? <;> rfl

theorem isPresent_double? (value? : Option Double) :
    some (decide (double? value? ≠ null)) = Truth.isPresent value? := by
  cases value? <;> rfl

theorem notDistinct_double? (left right : Option Double) :
    (double? left).notDistinct (double? right) =
      Truth.notDistinct Double.sameStored left right := by
  cases left <;> cases right <;> rfl

theorem equal_filled (left right : Option Double) (absent : Double) :
    ((double? left).filled (double absent)).equal ((double? right).filled (double absent)) =
      Truth.equal Double.sameStored (some (left.getD absent)) (some (right.getD absent)) := by
  cases left <;> cases right <;> rfl

theorem among_sites? (site : SiteId) (sites? : Option (List SiteId)) :
    (small site).among (Parameter.sites? sites?) = Truth.among (· == ·) site sites? := by
  cases sites? with
  | none => rfl
  | some sites =>
      change some ((sites.map Int32.toInt).contains site.toInt) = some (sites.any (site == ·))
      rw [List.contains_eq_any_beq, List.any_map]
      congr 2
      funext other
      simp [beq_eq_decide, Int32.toInt_inj]

theorem isNull_sites? (sites? : Option (List SiteId)) :
    some (decide (Parameter.sites? sites? = null)) = Truth.isNull sites? := by
  cases sites? <;> rfl

theorem selects_equal_row (left right : RecordId) :
    ((row left).equal (row right)).Selects ↔ left = right := by
  rw [equal_row, Truth.selects_known, beq_iff_eq]

end Parameter

def RuptureRow.columns (row : RuptureRow) : Row :=
  [("pr.id", .row row.id), ("pr.site_indices", .sites? row.sites?)]

def EventRow.columns (row : EventRow) : Row :=
  [("sr.id", .row row.id), ("sr.rupture_id", .row row.rupture)]

def FieldRow.columns (row : FieldRow) : Row :=
  [("gr.rupture_id", .row row.event), ("gr.gmf_id", .row row.container),
    ("gr.imt_id", .row row.measure)]

namespace Statement

variable {rupture event container measure : RecordId} {site : SiteId}

theorem finds_rupture (row : RuptureRow) :
    (lockSites rupture).Finds [("id", .row row.id)] ↔ row.id = rupture := by
  change (∀ condition ∈ [identified], _) ↔ _
  rw [List.forall_mem_singleton]
  exact Parameter.selects_equal_row _ _

theorem updateSites_finds_iff (sites : List SiteId) (row : Row) :
    (updateSites rupture sites).Finds row ↔ (lockSites rupture).Finds row := by
  change (∀ condition ∈ [identified], _) ↔ ∀ condition ∈ [identified], _
  rw [List.forall_mem_singleton, List.forall_mem_singleton]
  rfl

theorem finds_joined (owner : EventRow) (row : RuptureRow) :
    (shareSites event).Finds (owner.columns ++ row.columns) ↔
      row.id = owner.rupture ∧ owner.id = event := by
  change (∀ condition ∈ [placed, _], _) ↔ _
  rw [List.forall_mem_cons, List.forall_mem_singleton]
  exact and_congr (Parameter.selects_equal_row _ _) (Parameter.selects_equal_row _ _)

theorem finds_counted (field : FieldRow) (owner : EventRow) :
    (countFields rupture).Finds (field.columns ++ owner.columns) ↔
      owner.id = field.event ∧ owner.rupture = rupture := by
  change (∀ condition ∈ [covered, _], _) ↔ _
  rw [List.forall_mem_cons, List.forall_mem_singleton]
  exact and_congr (Parameter.selects_equal_row _ _) (Parameter.selects_equal_row _ _)

theorem finds_atSite (field : FieldRow) (owner : EventRow) (row : RuptureRow) :
    (fieldsAtSite container measure site).Finds (field.columns ++ owner.columns ++ row.columns) ↔
      owner.id = field.event ∧ row.id = owner.rupture ∧
        (field.container = container ∧ field.measure = measure) ∧
          (Fields.affects site ⟨field.event, field.values, row.sites?⟩).Selects := by
  change (∀ condition ∈ [covered, placed, .both (.both _ _) listed], _) ↔ _
  rw [List.forall_mem_cons, List.forall_mem_cons, List.forall_mem_singleton, Fields.affects,
    ← Parameter.isNull_sites?, ← Parameter.among_sites?]
  refine and_congr (Parameter.selects_equal_row _ _)
    (and_congr (Parameter.selects_equal_row _ _) ?_)
  refine (Truth.selects_and _ _).trans (and_congr_left' ?_)
  exact (Truth.selects_and _ _).trans
    (and_congr (Parameter.selects_equal_row _ _) (Parameter.selects_equal_row _ _))

end Statement

/-- The row of a rupture that is locked, or has its sites written. -/
theorem Database.mem_named_iff_finds (database : Database) (client : Nat) (rupture : RecordId)
    (row : RuptureRow) : row ∈ database.named client rupture ↔
      row ∈ (database.view client).ruptures ∧
        (Statement.lockSites rupture).Finds [("id", .row row.id)] := by
  rw [mem_named, Statement.finds_rupture]

theorem Database.mem_joined_iff_finds (database : Database) (client : Nat) (event : RecordId)
    (row : RuptureRow) : row ∈ database.joined client event ↔
      ∃ owner ∈ (database.view client).events, row ∈ (database.view client).ruptures ∧
        (Statement.shareSites event).Finds (owner.columns ++ row.columns) := by
  simp only [mem_joined, mem_named, Statement.finds_joined]
  constructor
  · intro known
    obtain ⟨owner, there, same, rowThere, placed⟩ := known
    exact ⟨owner, there, rowThere, placed, same⟩
  · intro known
    obtain ⟨owner, there, rowThere, placed, same⟩ := known
    exact ⟨owner, there, same, rowThere, placed⟩

theorem Tables.mem_fieldsOf_iff_finds (tables : Tables) (rupture : RecordId) (field : FieldRow) :
    field ∈ tables.fieldsOf rupture ↔ field ∈ tables.fields ∧ ∃ owner ∈ tables.events,
      (Statement.countFields rupture).Finds (field.columns ++ owner.columns) := by
  simp only [fieldsOf, List.mem_filter, List.any_eq_true, Bool.and_eq_true, beq_iff_eq,
    Statement.finds_counted]

theorem Tables.mem_fieldsAtSite_iff_finds (tables : Tables) (container measure : RecordId)
    (site : SiteId) (row : Fields.FieldAtSite) :
    row ∈ tables.fieldsAtSite container measure site ↔
      ∃ field ∈ tables.fields, ∃ owner ∈ tables.events, ∃ rupture ∈ tables.ruptures,
        (Statement.fieldsAtSite container measure site).Finds
            (field.columns ++ owner.columns ++ rupture.columns) ∧
          row = ⟨field.event, field.values, rupture.sites?⟩ := by
  simp only [fieldsAtSite, rupturesOf, List.mem_flatMap, List.mem_map, List.mem_filter,
    mem_fieldsOfMeasure, Statement.finds_atSite, Fields.affects_selects_iff, beq_iff_eq]
  constructor
  · intro known
    obtain ⟨field, ⟨there, same⟩, rupture, ⟨placed, listed⟩, rfl⟩ := known
    obtain ⟨owner, ⟨ownerThere, covers⟩, joined⟩ := placed
    refine ⟨field, there, owner, ownerThere, rupture, joined.1, ⟨covers, joined.2, same, ?_⟩, rfl⟩
    intro sites known
    simpa [known] using listed
  · intro known
    obtain ⟨field, there, owner, ownerThere, rupture, joined, finds, rfl⟩ := known
    obtain ⟨covers, same, sought, listed⟩ := finds
    refine ⟨field, ⟨there, sought⟩, rupture, ⟨⟨owner, ⟨ownerThere, covers⟩, joined, same⟩, ?_⟩, rfl⟩
    cases known : rupture.sites? with
    | none => rfl
    | some sites => simpa using listed sites known

def MeasureCells.columns (cells : MeasureCells) : Row :=
  [("im_type", cells.code?.elim .null .text), ("sa_period", .double? cells.period?),
    ("sa_damping", .double? cells.damping?)]

namespace Statement

theorem finds_measure (code : String) (period? damping? : Option Double) (row : MeasureCells) :
    (measureByComponents code period? damping?).Finds row.columns ↔
      (row.found ⟨some code, period?, damping?⟩).Selects := by
  change (∀ condition ∈ [sought], _) ↔ _
  rw [List.forall_mem_singleton, MeasureCells.found, ← Parameter.equal_text,
    ← Parameter.notDistinct_double?, ← Parameter.notDistinct_double?]
  rfl

/-- What a search for components is answered with, as servers keep the table. -/
theorem finds_measure_iff_sameComponents (code : String) (period? damping? : Option Double)
    (row : MeasureRow) :
    (measureByComponents code period? damping?).Finds row.spelling.cells.columns ↔
      row.spelling.sameComponents ⟨row.text, code, period?, damping?⟩ = true := by
  rw [finds_measure, ← Truth.selects_known, ← ReferenceMeasure.found_cells]
  rfl

theorem finds_reference (reference : ReferenceMeasure) (row : MeasureCells) :
    (referenceExists reference).Finds row.columns ↔ (row.found reference.cells).Selects :=
  finds_measure reference.code reference.period? reference.damping? row

theorem finds_violation (row : MeasureCells) :
    presenceViolations.Finds row.columns ↔ row.Counted := by
  change (∀ condition ∈ [Condition.choice _ _ _], _) ↔ _
  rw [List.forall_mem_singleton, MeasureCells.Counted, MeasureCells.violation,
    MeasureCells.spectral, ← Parameter.equal_text, ← Parameter.isNull_double?,
    ← Parameter.isNull_double?, ← Parameter.isPresent_double?, ← Parameter.isPresent_double?]
  rfl

end Statement

namespace MeasureCells

open Condition Operand

def check (component : String) : Condition :=
  either (both (equal (column "im_type") (literal "SA")) (isPresent (column component)))
    (both (differs (column "im_type") (literal "SA")) (isNull (column component)))

theorem check_period (cells : MeasureCells) :
    (check "sa_period").value cells.columns [] = cells.presence cells.period? := by
  rw [presence, spectral, ← Parameter.equal_text, ← Parameter.isNull_double?,
    ← Parameter.isPresent_double?]
  rfl

theorem check_damping (cells : MeasureCells) :
    (check "sa_damping").value cells.columns [] = cells.presence cells.damping? := by
  rw [presence, spectral, ← Parameter.equal_text, ← Parameter.isNull_double?,
    ← Parameter.isPresent_double?]
  rfl

theorem checked_iff_admits (cells : MeasureCells) : cells.Checked ↔
    ∀ component ∈ ["sa_period", "sa_damping"],
      ((check component).value cells.columns []).Admits := by
  rw [List.forall_mem_cons, List.forall_mem_singleton, check_period, check_damping]
  constructor
  · intro checked
    exact ⟨checked.period, checked.damping⟩
  · intro admitted
    exact ⟨admitted.1, admitted.2⟩

/-- Two rows have the same value of a key. -/
def shares (left right : MeasureCells) (key : Operand) : Truth :=
  (key.value left.columns []).equal (key.value right.columns [])

theorem sameKey_eq_shares (left right : MeasureCells) : left.sameKey right =
    ((left.shares right (column "im_type")).and (left.shares right (filled "sa_period"))).and
      (left.shares right (filled "sa_damping")) := by
  rw [sameKey, periodKey, periodKey, dampingKey, dampingKey, ← Parameter.equal_text,
    ← Parameter.equal_filled, ← Parameter.equal_filled]
  rfl

end MeasureCells

namespace Migration

/-- A script without its lines of comment. -/
def uncommented (script : List Char) : List Char :=
  ((script.splitOnP (· == '\n')).filter (fun line =>
    !(List.isPrefixOf ['-', '-'] (line.dropWhile Char.isWhitespace)))).flatMap (· ++ ['\n'])

/-- The constraints on measures: the text is unique, the components are there for the spectral code
alone, and no two rows share the three keys. -/
def measureConstraints : List (List String) :=
  [["imt_str", "TEXT", "NOT", "NULL", "UNIQUE", ","],
    ["CONSTRAINT", "imt_sa_period", "CHECK", "("] ++ (MeasureCells.check "sa_period").tokens ++
      [")"],
    ["CONSTRAINT", "imt_sa_damping", "CHECK", "("] ++ (MeasureCells.check "sa_damping").tokens ++
      [")"],
    ["CREATE", "UNIQUE", "INDEX", "uq_imt_type_period_damping", "ON", "hzrdr.imt", "("] ++
      (Operand.column "im_type").tokens ++ "," :: (Operand.filled "sa_period").tokens ++
      "," :: (Operand.filled "sa_damping").tokens ++ [")", ";"]]

theorem declares_measureConstraints :
    ∃ migration ∈ known, ∀ constraint ∈ measureConstraints,
      constraint <:+: tokens (uncommented (Statement.applyMigration migration).text.toList) := by
  refine ⟨_, List.mem_cons_of_mem _ List.mem_cons_self, ?_⟩
  change ∀ constraint ∈ measureConstraints,
    constraint <:+: tokens (uncommented ruptureFieldsScript.toList)
  unfold ruptureFieldsScript
  rewrite [String.toList_ofList]
  decide +kernel

end Migration

end HazardStore
