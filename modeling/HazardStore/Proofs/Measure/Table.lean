import HazardStore.Proofs.Measure.RoundTrip
/-!
The table of intensity measures as the migrated schema declares it, and servers that keep it so. A
row is taken in unless one is there with its text or with its key in the index over the components;
the index puts minus one for an absent component. Under the two checks on presence the index tells
rows apart exactly as the search by components does.
-/

namespace HazardStore

namespace Double

/-- Equality of stored numbers: as numbers, and not-a-number equals itself. -/
def sameStored (left right : Double) : Bool :=
  left.sameNumber right || (decide (left = .nan) && decide (right = .nan))

theorem sameStored_self (value : Double) : value.sameStored value = true := by
  cases value <;> simp [sameStored, sameNumber]

theorem sameStored_comm (left right : Double) : left.sameStored right = right.sameStored left := by
  cases left with
  | nan => cases right <;> simp [sameStored, sameNumber]
  | infinite sign =>
      cases right with
      | nan => simp [sameStored, sameNumber]
      | infinite other => simp [sameStored, sameNumber, Bool.beq_comm]
      | finite other code => simp [sameStored, sameNumber]
  | finite sign code =>
      cases right with
      | nan => simp [sameStored, sameNumber]
      | infinite other => simp [sameStored, sameNumber]
      | finite other further =>
          by_cases same : code = further
          · subst same
            simp [sameStored, sameNumber, Bool.beq_comm]
          · have apart : (code == further) = false := beq_false_of_ne same
            have flipped : (further == code) = false := beq_false_of_ne (Ne.symm same)
            simp [sameStored, sameNumber, apart, flipped]

theorem sameStored_iff_of_positive (left right : Double) (finite : left.isFinite = true)
    (positive : left.isPositive = true) : left.sameStored right = true ↔ left = right := by
  have number : left ≠ .nan := by
    intro nan
    rw [nan] at finite
    cases finite
  simp only [sameStored, number, decide_false, Bool.false_and, Bool.or_false]
  exact sameNumber_iff_of_positive left right finite positive

end Double

namespace ReferenceMeasure

def sameCell : Option Double → Option Double → Bool
  | none, none => true
  | some left, some right => left.sameStored right
  | _, _ => false

def sameComponents (left right : ReferenceMeasure) : Bool :=
  left.code == right.code && sameCell left.period? right.period? &&
    sameCell left.damping? right.damping?

def absentKey : Double :=
  (⟨1, 0⟩ : Decimal).toDouble true

def sameKey (left right : ReferenceMeasure) : Bool :=
  left.code == right.code &&
    (left.period?.getD absentKey).sameStored (right.period?.getD absentKey) &&
    (left.damping?.getD absentKey).sameStored (right.damping?.getD absentKey)

/-- The unique text and the unique index: rows for which this holds cannot both be there. -/
def clashes (left right : ReferenceMeasure) : Bool :=
  left.text == right.text || left.sameKey right

def presence (code : String) (component? : Option Double) : Bool :=
  (code == MeasureKind.spectralAcceleration.code && component?.isSome) ||
    (code != MeasureKind.spectralAcceleration.code && component?.isNone)

def passesChecks (spelling : ReferenceMeasure) : Bool :=
  presence spelling.code spelling.period? && presence spelling.code spelling.damping?

theorem sameComponents_self (spelling : ReferenceMeasure) :
    spelling.sameComponents spelling = true := by
  have cell (component? : Option Double) : sameCell component? component? = true := by
    cases component? with
    | none => rfl
    | some value => exact value.sameStored_self
  simp [sameComponents, cell]

private theorem sameCell_of_presence (code : String) (left right : Option Double)
    (leftPresent : presence code left = true) (rightPresent : presence code right = true) :
    (left.getD absentKey).sameStored (right.getD absentKey) = sameCell left right := by
  by_cases spectral : code = MeasureKind.spectralAcceleration.code
  · cases left <;> cases right <;> simp_all [presence, sameCell]
  · cases left <;> cases right <;> simp_all [presence, sameCell, Double.sameStored_self]

theorem sameKey_eq_sameComponents (left right : ReferenceMeasure)
    (leftChecked : left.passesChecks = true) (rightChecked : right.passesChecks = true) :
    left.sameKey right = left.sameComponents right := by
  by_cases codes : left.code = right.code
  · simp only [passesChecks, Bool.and_eq_true] at leftChecked rightChecked
    rw [← codes] at rightChecked
    simp only [sameKey, sameComponents,
      sameCell_of_presence left.code _ _ leftChecked.1 rightChecked.1,
      sameCell_of_presence left.code _ _ leftChecked.2 rightChecked.2]
  · have apart : (left.code == right.code) = false := beq_false_of_ne codes
    simp [sameKey, sameComponents, apart]

end ReferenceMeasure

namespace MeasureRow

def spelling (row : MeasureRow) : ReferenceMeasure where
  text := row.text
  code := row.code
  period? := row.period?
  damping? := row.damping?

def cells (row : MeasureRow) : Cells Statement.measureColumns :=
  (some row.id, some row.text, some row.code, row.period?, row.damping?, ())

theorem measure_spelling (row : MeasureRow) : row.spelling.measure = row.measure :=
  rfl

end MeasureRow

structure ConformingMeasures (rows : List MeasureRow) : Prop where
  identities : rows.Pairwise (fun left right => left.id ≠ right.id)
  apart : rows.Pairwise (fun left right => left.spelling.clashes right.spelling = false)
  checked : ∀ row ∈ rows, row.spelling.passesChecks = true

/-- An insertion that does nothing on a conflict: the rows it adds and the table it leaves. -/
inductive MeasureInsertion (rows : List MeasureRow) (spelling : ReferenceMeasure) :
    List MeasureRow → List MeasureRow → Prop where
  | added (id : RecordId) (fresh : ∀ row ∈ rows, row.id ≠ id)
      (apart : ∀ row ∈ rows, row.spelling.clashes spelling = false)
      (checked : spelling.passesChecks = true) :
      MeasureInsertion rows spelling [spelling.row id] (rows ++ [spelling.row id])
  | skipped (row : MeasureRow) (there : row ∈ rows)
      (clash : row.spelling.clashes spelling = true) : MeasureInsertion rows spelling [] rows

theorem MeasureInsertion.rows_eq {rows added after : List MeasureRow} {spelling : ReferenceMeasure}
    (insertion : MeasureInsertion rows spelling added after) : after = rows ++ added := by
  cases insertion with
  | added id fresh apart checked => rfl
  | skipped row there clash => exact (List.append_nil rows).symm

theorem MeasureInsertion.conforming {rows added after : List MeasureRow}
    {spelling : ReferenceMeasure} (insertion : MeasureInsertion rows spelling added after)
    (conforming : ConformingMeasures rows) : ConformingMeasures after := by
  cases insertion with
  | added id fresh apart checked =>
      refine ⟨?_, ?_, ?_⟩
      · rw [List.pairwise_append]
        refine ⟨conforming.identities, List.pairwise_singleton _ _, ?_⟩
        intro row there last member
        rw [List.mem_singleton.1 member]
        exact fresh row there
      · rw [List.pairwise_append]
        refine ⟨conforming.apart, List.pairwise_singleton _ _, ?_⟩
        intro row there last member
        rw [List.mem_singleton.1 member]
        exact apart row there
      · intro row member
        rcases List.mem_append.1 member with old | new
        · exact conforming.checked row old
        · rw [List.mem_singleton.1 new]
          exact checked
  | skipped row there clash => exact conforming

/-- A server that keeps the table of measures under its constraints. `rows` is the table as the
client sees it, what its open transaction has inserted included. -/
structure MeasureServer (σ : Type) extends Server σ where
  rows : σ → List MeasureRow
  begin_rows : ∀ state, rows (begin state).2 = rows state
  commit_rows : ∀ state, (commit state).1 = .ok () → rows (commit state).2 = rows state
  refused_rows : ∀ statement state error after,
    answer statement state = (.error error, after) → rows after = rows state
  search_rows : ∀ code period? damping? state reply after,
    answer (.measureByComponents code period? damping?) state = (.ok reply, after) →
      rows after = rows state ∧
      reply.rowList.Perm (((rows state).filter (fun row =>
        row.spelling.sameComponents ⟨row.text, code, period?, damping?⟩)).map MeasureRow.cells)
  register_rows : ∀ text code period? damping? state reply after,
    answer (.registerMeasure text code period? damping?) state = (.ok reply, after) →
      ∃ added, MeasureInsertion (rows state) ⟨text, code, period?, damping?⟩ added (rows after) ∧
        reply.rowList = added.map MeasureRow.cells
  seed_rows : ∀ reference state reply after,
    answer (.seedMeasure reference) state = (.ok reply, after) →
      ∃ added, MeasureInsertion (rows state) reference added (rows after) ∧
        reply.rowsAffected = added.length

structure MeasureTable where
  rows : List MeasureRow
  saved : List MeasureRow

namespace MeasureTable

def refusal : ServerError :=
  ⟨"XX000", "refused"⟩

def insert? (table : MeasureTable) (spelling : ReferenceMeasure) :
    Option (List MeasureRow × MeasureTable) :=
  let id : RecordId := Int64.ofNat (table.rows.length + 1)
  if table.rows.any (fun row => row.spelling.clashes spelling) then some ([], table)
  else if spelling.passesChecks = false ∨ table.rows.any (fun row => row.id == id) then none
  else some ([spelling.row id], { table with rows := table.rows ++ [spelling.row id] })

theorem insert?_insertion (table after : MeasureTable) (spelling : ReferenceMeasure)
    (added : List MeasureRow) (inserted : table.insert? spelling = some (added, after)) :
    MeasureInsertion table.rows spelling added after.rows := by
  unfold insert? at inserted
  dsimp only at inserted
  split at inserted
  · rename_i clash
    cases inserted
    obtain ⟨row, there, clash⟩ := List.any_eq_true.1 clash
    exact .skipped row there clash
  · rename_i apart
    split at inserted
    · cases inserted
    · rename_i accepted
      cases inserted
      rw [not_or, Bool.not_eq_false, Bool.not_eq_true] at accepted
      rw [Bool.not_eq_true] at apart
      refine .added _ ?_ ?_ accepted.1
      · intro row there same
        have taken := List.any_eq_false.1 accepted.2 row there
        exact taken (beq_iff_eq.2 same)
      · intro row there
        exact Bool.eq_false_iff.2 (List.any_eq_false.1 apart row there)

def answer : (statement : Statement) → MeasureTable →
    Except ServerError (Reply statement) × MeasureTable
  | .measureByComponents code period? damping?, table =>
      (.ok (.rows ((table.rows.filter (fun row =>
        row.spelling.sameComponents ⟨row.text, code, period?, damping?⟩)).map MeasureRow.cells)),
        table)
  | .registerMeasure text code period? damping?, table =>
      match table.insert? ⟨text, code, period?, damping?⟩ with
      | some (added, after) => (.ok (.rows (added.map MeasureRow.cells)), after)
      | none => (.error refusal, table)
  | .seedMeasure reference, table =>
      match table.insert? reference with
      | some (added, after) => (.ok (.affected added.length), after)
      | none => (.error refusal, table)
  | _, table => (.error refusal, table)

theorem answer_refused (statement : Statement) (table after : MeasureTable) (error : ServerError)
    (refused : answer statement table = (.error error, after)) : after = table := by
  unfold answer at refused
  split at refused
  · cases refused
  · split at refused <;> cases refused
    rfl
  · split at refused <;> cases refused
    rfl
  · cases refused
    rfl

def server : MeasureServer MeasureTable where
  answer := answer
  begin table := (.ok (), { table with saved := table.rows })
  commit table := (.ok (), table)
  rollback table := { table with rows := table.saved }
  rows := MeasureTable.rows
  begin_rows _ := rfl
  commit_rows _ _ := rfl
  refused_rows statement table error after refused :=
    congrArg MeasureTable.rows (answer_refused statement table after error refused)
  search_rows code period? damping? table reply after answered := by
    cases answered
    exact ⟨rfl, .refl _⟩
  register_rows text code period? damping? table reply after answered := by
    simp only [answer] at answered
    split at answered
    · rename_i added left inserted
      cases answered
      exact ⟨added, insert?_insertion _ _ _ _ inserted, rfl⟩
    · cases answered
  seed_rows reference table reply after answered := by
    simp only [answer] at answered
    split at answered
    · rename_i added left inserted
      cases answered
      exact ⟨added, insert?_insertion _ _ _ _ inserted, rfl⟩
    · cases answered

end MeasureTable

end HazardStore
