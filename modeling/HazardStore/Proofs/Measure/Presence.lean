import HazardStore.Proofs.Measure.Grammar
import HazardStore.Proofs.Measure.Table
import HazardStore.Proofs.Server.Truth
/-!
The presence rule of measures: a period and a damping for spectral acceleration, neither for any
other kind. It is stated four times over. The constructors of a measure build nothing else, the
reading of a row accepts nothing else, two checks of the table refuse other rows, and a query of the
schema verification counts them. The last two are conditions over cells that may be null, and a
condition over a null cell may be unknown: a check lets an unknown row pass, a query leaves it out.
-/

namespace HazardStore

structure MeasureCells where
  code? : Option String
  period? : Option Double
  damping? : Option Double
deriving DecidableEq

namespace MeasureCells

open Truth

def spectral (cells : MeasureCells) : Truth :=
  equal (· == ·) cells.code? (some MeasureKind.spectralAcceleration.code)

/-- The check of one column: filled for the spectral code, null for any other one. -/
def presence (cells : MeasureCells) (component? : Option Double) : Truth :=
  (cells.spectral.and (isPresent component?)).or (cells.spectral.not.and (isNull component?))

structure Checked (cells : MeasureCells) : Prop where
  period : (cells.presence cells.period?).Admits
  damping : (cells.presence cells.damping?).Admits

/-- The condition of the query that counts rows which break the rule. -/
def violation (cells : MeasureCells) : Truth :=
  Truth.choose cells.spectral ((isNull cells.period?).or (isNull cells.damping?))
    ((isPresent cells.period?).or (isPresent cells.damping?))

def Counted (cells : MeasureCells) : Prop :=
  cells.violation.Selects

instance (cells : MeasureCells) : Decidable cells.Counted :=
  inferInstanceAs (Decidable cells.violation.Selects)

end MeasureCells

def ReferenceMeasure.cells (spelling : ReferenceMeasure) : MeasureCells where
  code? := some spelling.code
  period? := spelling.period?
  damping? := spelling.damping?

namespace ReferenceMeasure

variable (spelling : ReferenceMeasure)

theorem spectral_cells :
    spelling.cells.spectral = some (spelling.code == MeasureKind.spectralAcceleration.code) :=
  rfl

theorem presence_cells (component? : Option Double) :
    spelling.cells.presence component? = some (presence spelling.code component?) := by
  unfold MeasureCells.presence
  rw [spectral_cells, Truth.not_known, Truth.isPresent, Truth.isNull, Truth.and_known,
    Truth.and_known, Truth.or_known]
  rfl

theorem checked_cells : spelling.cells.Checked ↔ spelling.passesChecks = true := by
  unfold passesChecks
  rw [Bool.and_eq_true]
  constructor
  · intro checked
    obtain ⟨period, damping⟩ := checked
    rw [presence_cells, Truth.admits_known] at period damping
    exact ⟨period, damping⟩
  · intro passed
    refine ⟨?_, ?_⟩
    · rw [presence_cells, Truth.admits_known]
      exact passed.1
    · rw [presence_cells, Truth.admits_known]
      exact passed.2

theorem violation_cells : spelling.cells.violation = some (!spelling.passesChecks) := by
  unfold MeasureCells.violation passesChecks presence
  rw [spectral_cells]
  obtain ⟨text, code, period?, damping?⟩ := spelling
  by_cases spectral : code = MeasureKind.spectralAcceleration.code
  · subst spectral
    cases period? <;> cases damping? <;> rfl
  · have other : (code == MeasureKind.spectralAcceleration.code) = false := beq_false_of_ne spectral
    have apart : (code != MeasureKind.spectralAcceleration.code) = true := bne_iff_ne.2 spectral
    -- the code settles the choice, and what is left are the ways to fill two columns
    simp only [cells, other, apart, Truth.choose, Bool.false_and, Bool.true_and, Bool.false_or]
    cases period? <;> cases damping? <;> rfl

theorem counted_cells : spelling.cells.Counted ↔ ¬spelling.cells.Checked := by
  unfold MeasureCells.Counted
  rw [violation_cells, Truth.selects_known, checked_cells, Bool.not_eq_true', Bool.not_eq_true]

end ReferenceMeasure

namespace MeasureCells

theorem eq_cells {cells : MeasureCells} {code : String} (coded : cells.code? = some code) :
    cells = (⟨"", code, cells.period?, cells.damping?⟩ : ReferenceMeasure).cells := by
  obtain ⟨code?, period?, damping?⟩ := cells
  cases coded
  rfl

theorem checked_iff_not_counted {cells : MeasureCells} (coded : cells.code? ≠ none) :
    cells.Checked ↔ ¬cells.Counted := by
  obtain ⟨code, known⟩ := Option.ne_none_iff_exists'.1 coded
  rw [eq_cells known, ReferenceMeasure.counted_cells, Classical.not_not]

/-- A row without a code gets past the checks, which are unknown there, and may still be counted. -/
example : (⟨none, some .zero, none⟩ : MeasureCells).Checked ∧
    (⟨none, some .zero, none⟩ : MeasureCells).Counted :=
  ⟨⟨by decide, by decide⟩, by decide⟩

end MeasureCells

/-! ### The rule over measures -/

theorem MeasureKind.mem_codes (code : String) :
    code ∈ ["PGA", "PGV", "PGD", "IA", "RSD", "MMI", "SA"] ↔
      ∃ kind : MeasureKind, kind.code = code := by
  change code ∈ all.map MeasureKind.code ↔ _
  rw [List.mem_map]
  constructor
  · intro known
    obtain ⟨kind, _, same⟩ := known
    exact ⟨kind, same⟩
  · intro known
    obtain ⟨kind, same⟩ := known
    exact ⟨kind, kind.mem_all, same⟩

namespace Measure

def Suitable (value : Double) : Prop :=
  value.isFinite = true ∧ value.isPositive = true

/-- Spectral with both components, or of another kind with neither. -/
def Complete (measure : Measure) : Prop :=
  (measure.kind = .spectralAcceleration ∧
    ∃ period damping, measure.period? = some period ∧ measure.damping? = some damping ∧
      Suitable period ∧ Suitable damping) ∨
  (measure.kind ≠ .spectralAcceleration ∧ measure.period? = none ∧ measure.damping? = none)

inductive Returned (measure : Measure) : Prop where
  | ofKind (kind : MeasureKind) (returned : ofKind kind = .ok measure)
  | ofParameters (period damping : Double) (returned : ofParameters period damping = .ok measure)
  | ofComponents (code : String) (period? damping? : Option Double)
      (returned : ofComponents code period? damping? = .ok measure)
  | ofText (text : String) (returned : ofText text = .ok measure)

/-! Each constructor gives what it was asked for. -/

theorem ofKind_eq_ok_iff (kind : MeasureKind) (measure : Measure) :
    ofKind kind = .ok measure ↔ ∃ notSpectral, measure = .simple kind notSpectral := by
  unfold ofKind
  by_cases notSpectral : kind.isSpectral = false
  · rw [dif_pos notSpectral, Except.ok.injEq]
    exact ⟨fun same => ⟨notSpectral, same.symm⟩, fun known => known.choose_spec.symm⟩
  · rw [dif_neg notSpectral]
    constructor
    · intro impossible
      cases impossible
    · intro known
      exact absurd known.choose notSpectral

/-- A row is read by the constructor that its code calls for. -/
inductive Route (code : String) (measure : Measure) : Option Double → Option Double → Prop where
  | simple (kind : MeasureKind) (coded : kind.code = code) (returned : ofKind kind = .ok measure) :
      Route code measure none none
  | spectral (period damping : Double) (coded : MeasureKind.spectralAcceleration.code = code)
      (returned : ofParameters period damping = .ok measure) :
      Route code measure (some period) (some damping)

theorem ofComponents_route (code : String) (period? damping? : Option Double) (measure : Measure)
    (accepted : ofComponents code period? damping? = .ok measure) :
    Route code measure period? damping? := by
  unfold ofComponents at accepted
  cases found : MeasureKind.ofCode? code with
  | none => rw [found] at accepted; cases accepted
  | some kind =>
      have coded := (MeasureKind.ofCode?_eq_some_iff code kind).1 found
      rw [found] at accepted
      dsimp only at accepted
      split at accepted
      · rename_i period damping spectral
        rw [of_decide_eq_true spectral] at coded
        exact .spectral period damping coded accepted
      · cases accepted
      · exact .simple kind coded accepted
      · cases accepted

theorem ofComponents_eq_ok_iff (code : String) (period? damping? : Option Double)
    (measure : Measure) : ofComponents code period? damping? = .ok measure ↔
      measure.kind.code = code ∧ measure.period? = period? ∧ measure.damping? = damping? := by
  constructor
  · intro accepted
    cases ofComponents_route _ _ _ _ accepted with
    | simple kind coded returned =>
        obtain ⟨notSpectral, same⟩ := (ofKind_eq_ok_iff _ _).1 returned
        rw [same]
        exact ⟨coded, rfl, rfl⟩
    | spectral period damping coded returned =>
        obtain ⟨one, two, periodIs, dampingIs, same⟩ := (ofParameters_eq_ok_iff _ _ _).1 returned
        rw [same, ← periodIs, ← dampingIs]
        exact ⟨coded, rfl, rfl⟩
  · intro known
    obtain ⟨code, period, damping⟩ := known
    rw [← code, ← period, ← damping]
    exact measure.measure_spelling

theorem complete_simple (kind : MeasureKind) (notSpectral : kind.isSpectral = false) :
    (simple kind notSpectral).Complete :=
  Or.inr ⟨of_decide_eq_false notSpectral, rfl, rfl⟩

theorem complete_spectral (period damping : PositiveNumber) :
    (spectral period damping).Complete :=
  Or.inl ⟨rfl, period.value, damping.value, rfl, rfl, ⟨period.isFinite, period.isPositive⟩,
    ⟨damping.isFinite, damping.isPositive⟩⟩

theorem Returned.complete {measure : Measure} (returned : Returned measure) : measure.Complete := by
  -- a row and a text end in one of these two constructors
  have ofKind (kind : MeasureKind) (returned : Measure.ofKind kind = .ok measure) :
      measure.Complete := by
    obtain ⟨notSpectral, same⟩ := (ofKind_eq_ok_iff _ _).1 returned
    rw [same]
    exact complete_simple kind notSpectral
  have ofParameters (period damping : Double)
      (returned : Measure.ofParameters period damping = .ok measure) : measure.Complete := by
    obtain ⟨one, two, _, _, same⟩ := (ofParameters_eq_ok_iff _ _ _).1 returned
    rw [same]
    exact complete_spectral one two
  cases returned with
  | ofKind kind returned => exact ofKind kind returned
  | ofParameters period damping returned => exact ofParameters period damping returned
  | ofComponents code period? damping? returned =>
      cases ofComponents_route _ _ _ _ returned with
      | simple kind _ simple => exact ofKind kind simple
      | spectral period damping _ spectral => exact ofParameters period damping spectral
  | ofText text returned =>
      have names := (ofText_eq_ok_iff text measure).1 returned
      generalize Text.trim text.toList = name at names
      cases names with
      | code kind notSpectral => exact complete_simple kind notSpectral
      | spectral inner period damping parameters => exact complete_spectral period damping

theorem presence_iff (kind : MeasureKind) (component? : Option Double) :
    ReferenceMeasure.presence kind.code component? = true ↔
      (kind = .spectralAcceleration ∧ component? ≠ none) ∨
        (kind ≠ .spectralAcceleration ∧ component? = none) := by
  have codes : kind.code = MeasureKind.spectralAcceleration.code ↔ kind = .spectralAcceleration :=
    ⟨MeasureKind.code_injective, congrArg MeasureKind.code⟩
  simp [ReferenceMeasure.presence, codes, Option.isSome_iff_ne_none]

theorem Complete.presence {measure : Measure} (complete : measure.Complete) :
    measure.spelling.passesChecks = true ∧ (∀ period ∈ measure.period?, Suitable period) ∧
      ∀ damping ∈ measure.damping?, Suitable damping := by
  unfold ReferenceMeasure.passesChecks spelling
  rw [Bool.and_eq_true, presence_iff, presence_iff]
  rcases complete with ⟨spectral, period, damping, periodIs, dampingIs, suitable⟩ | absent
  · rw [periodIs, dampingIs]
    refine ⟨⟨Or.inl ⟨spectral, nofun⟩, Or.inl ⟨spectral, nofun⟩⟩, ?_, ?_⟩
    · intro number same
      cases same
      exact suitable.1
    · intro number same
      cases same
      exact suitable.2
  · obtain ⟨other, noPeriod, noDamping⟩ := absent
    rw [noPeriod, noDamping]
    exact ⟨⟨Or.inr ⟨other, rfl⟩, Or.inr ⟨other, rfl⟩⟩, nofun, nofun⟩

theorem exists_of_presence {kind : MeasureKind} {period? damping? : Option Double}
    (period : ReferenceMeasure.presence kind.code period? = true)
    (damping : ReferenceMeasure.presence kind.code damping? = true)
    (suitablePeriod : ∀ period ∈ period?, Suitable period)
    (suitableDamping : ∀ damping ∈ damping?, Suitable damping) :
    ∃ measure : Measure, measure.kind = kind ∧ measure.period? = period? ∧
      measure.damping? = damping? := by
  rw [presence_iff] at period damping
  by_cases spectral : kind = .spectralAcceleration
  · obtain ⟨one, periodIs⟩ := Option.ne_none_iff_exists'.1
      (period.resolve_right (fun other => other.1 spectral)).2
    obtain ⟨two, dampingIs⟩ := Option.ne_none_iff_exists'.1
      (damping.resolve_right (fun other => other.1 spectral)).2
    obtain ⟨oneFinite, onePositive⟩ := suitablePeriod one periodIs
    obtain ⟨twoFinite, twoPositive⟩ := suitableDamping two dampingIs
    exact ⟨.spectral ⟨one, oneFinite, onePositive⟩ ⟨two, twoFinite, twoPositive⟩, spectral.symm,
      periodIs.symm, dampingIs.symm⟩
  · have noPeriod := (period.resolve_left (fun here => spectral here.1)).2
    have noDamping := (damping.resolve_left (fun here => spectral here.1)).2
    exact ⟨.simple kind (decide_eq_false spectral), rfl, noPeriod.symm, noDamping.symm⟩

theorem exists_ofComponents_iff (code : String) (period? damping? : Option Double) :
    (∃ measure, ofComponents code period? damping? = .ok measure) ↔
      code ∈ ["PGA", "PGV", "PGD", "IA", "RSD", "MMI", "SA"] ∧
      (⟨some code, period?, damping?⟩ : MeasureCells).Checked ∧
      (∀ period ∈ period?, Suitable period) ∧ ∀ damping ∈ damping?, Suitable damping := by
  have checked : (⟨some code, period?, damping?⟩ : MeasureCells).Checked ↔ _ :=
    ReferenceMeasure.checked_cells ⟨"", code, period?, damping?⟩
  rw [MeasureKind.mem_codes, checked]
  constructor
  · intro accepted
    obtain ⟨measure, accepted⟩ := accepted
    obtain ⟨passed, suitable⟩ :=
      (Returned.ofComponents code period? damping? accepted).complete.presence
    obtain ⟨codeIs, periodIs, dampingIs⟩ := (ofComponents_eq_ok_iff _ _ _ _).1 accepted
    rw [← codeIs, ← periodIs, ← dampingIs]
    exact ⟨⟨measure.kind, rfl⟩, passed, suitable⟩
  · intro known
    obtain ⟨⟨kind, coded⟩, passed, suitablePeriod, suitableDamping⟩ := known
    rw [← coded, ReferenceMeasure.passesChecks, Bool.and_eq_true] at passed
    obtain ⟨measure, kindIs, periodIs, dampingIs⟩ :=
      exists_of_presence passed.1 passed.2 suitablePeriod suitableDamping
    refine ⟨measure, (ofComponents_eq_ok_iff _ _ _ _).2 ⟨?_, periodIs, dampingIs⟩⟩
    rw [kindIs, coded]

/-- What a constructor returns is complete; a row is read as a measure exactly when it has a code of
a kind, keeps the rule as the checks have it and brings numbers that components may be, and then as
the measure with its components; and the verification counts the rows that the checks refuse. -/
theorem presence_exact :
    (∀ measure, Returned measure → measure.Complete) ∧
    (∀ code period? damping?,
      ((∃ measure, ofComponents code period? damping? = .ok measure) ↔
        code ∈ ["PGA", "PGV", "PGD", "IA", "RSD", "MMI", "SA"] ∧
        (⟨some code, period?, damping?⟩ : MeasureCells).Checked ∧
        (∀ period ∈ period?, Suitable period) ∧ ∀ damping ∈ damping?, Suitable damping) ∧
      ∀ measure, ofComponents code period? damping? = .ok measure →
        measure.kind.code = code ∧ measure.period? = period? ∧ measure.damping? = damping?) ∧
    ∀ cells : MeasureCells, cells.code? ≠ none → (cells.Checked ↔ ¬cells.Counted) := by
  refine ⟨fun measure returned => returned.complete, ?_,
    fun cells coded => MeasureCells.checked_iff_not_counted coded⟩
  intro code period? damping?
  exact ⟨exists_ofComponents_iff code period? damping?,
    fun measure accepted => (ofComponents_eq_ok_iff code period? damping? measure).1 accepted⟩

/-- A period of minus zero gets past the checks and is not counted, and no measure has it. -/
theorem presence_exact_zero :
    let row : MeasureCells := ⟨some "SA", some (.ofCode true 0), some defaultDamping⟩
    row.Checked ∧ ¬row.Counted ∧
      (¬∃ measure, ofComponents "SA" (some (.ofCode true 0)) (some defaultDamping) = .ok measure) ∧
      ∃ measure, ofText " SA(0.1) " = .ok measure ∧ measure.Complete := by
  intro row
  have checked : row.Checked := ⟨by decide +kernel, by decide +kernel⟩
  refine ⟨checked, (presence_exact.2.2 row nofun).1 checked, ?_, ?_⟩
  · rw [(presence_exact.2.1 _ _ _).1]
    intro known
    have positive := (known.2.2.1 _ rfl).2
    revert positive
    decide +kernel
  · cases read : ofText " SA(0.1) " with
    | ok measure => exact ⟨measure, rfl, presence_exact.1 measure (.ofText _ read)⟩
    | error violation =>
        have accepted : (ofText " SA(0.1) ").toOption.isSome = true := by decide +kernel
        rw [read] at accepted
        cases accepted

end Measure

end HazardStore
