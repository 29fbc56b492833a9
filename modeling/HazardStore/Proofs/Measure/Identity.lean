import HazardStore.Proofs.Measure.Presence
import HazardStore.Proofs.Measure.Registration
/-!
When measures count as the same. Rows of the table are told apart by the keys of its unique index,
where minus one stands for an absent component, and are searched for by a condition in which null is
a value of its own; both come to the same for rows that keep the presence rule. Measures are told
apart by their components as numbers, by their texts and by the keys of their rows; all three come
to the same, and every measure is the same as itself.
-/

namespace HazardStore

/-- The equality of two cells in which null is a value of its own; it is never unknown. -/
def Truth.notDistinct {α : Type} (same : α → α → Bool) : Option α → Option α → Truth
  | none, none => some true
  | some left, some right => some (same left right)
  | _, _ => some false

namespace MeasureCells

open Truth

def periodKey (cells : MeasureCells) : Option Double :=
  some (cells.period?.getD ReferenceMeasure.absentKey)

def dampingKey (cells : MeasureCells) : Option Double :=
  some (cells.damping?.getD ReferenceMeasure.absentKey)

def sameKey (left right : MeasureCells) : Truth :=
  ((equal (· == ·) left.code? right.code?).and
    (equal Double.sameStored left.periodKey right.periodKey)).and
    (equal Double.sameStored left.dampingKey right.dampingKey)

def found (row sought : MeasureCells) : Truth :=
  ((equal (· == ·) row.code? sought.code?).and
    (notDistinct Double.sameStored row.period? sought.period?)).and
    (notDistinct Double.sameStored row.damping? sought.damping?)

theorem not_selects_of_uncoded {left right : MeasureCells} {others further : Truth}
    (uncoded : left.code? = none ∨ right.code? = none) :
    ¬(((equal (· == ·) left.code? right.code?).and others).and further).Selects := by
  have unknown : equal (· == ·) left.code? right.code? = none := by
    rcases uncoded with absent | absent
    · rw [absent]
      rfl
    · rw [absent]
      cases left.code? <;> rfl
  rw [selects_and, selects_and, unknown]
  intro selected
  cases selected.1.1

end MeasureCells

namespace ReferenceMeasure

variable (left right : ReferenceMeasure)

theorem sameKey_cells : left.cells.sameKey right.cells = some (left.sameKey right) := by
  change Truth.and (Truth.and (some _) (some _)) (some _) = _
  rw [Truth.and_known, Truth.and_known]
  rfl

theorem notDistinct_cells (one two : Option Double) :
    Truth.notDistinct Double.sameStored one two = some (sameCell one two) := by
  cases one <;> cases two <;> rfl

theorem found_cells : left.cells.found right.cells = some (left.sameComponents right) := by
  unfold MeasureCells.found
  rw [notDistinct_cells, notDistinct_cells]
  change Truth.and (Truth.and (some _) (some _)) (some _) = _
  rw [Truth.and_known, Truth.and_known]
  rfl

end ReferenceMeasure

namespace MeasureCells

theorem sameKey_iff_found {left right : MeasureCells} (leftChecked : left.Checked)
    (rightChecked : right.Checked) :
    (left.sameKey right).Selects ↔ (left.found right).Selects := by
  by_cases uncoded : left.code? = none ∨ right.code? = none
  · exact iff_of_false (not_selects_of_uncoded uncoded) (not_selects_of_uncoded uncoded)
  · obtain ⟨leftCoded, rightCoded⟩ := not_or.1 uncoded
    obtain ⟨leftCode, leftKnown⟩ := Option.ne_none_iff_exists'.1 leftCoded
    obtain ⟨rightCode, rightKnown⟩ := Option.ne_none_iff_exists'.1 rightCoded
    rw [eq_cells leftKnown, ReferenceMeasure.checked_cells] at leftChecked
    rw [eq_cells rightKnown, ReferenceMeasure.checked_cells] at rightChecked
    rw [eq_cells leftKnown, eq_cells rightKnown, ReferenceMeasure.sameKey_cells,
      ReferenceMeasure.found_cells,
      ReferenceMeasure.sameKey_eq_sameComponents _ _ leftChecked rightChecked]

/-- Without the checks an absent period and one of minus one would share a key. -/
example : let absent : MeasureCells := ⟨some "SA", none, some .zero⟩
    let below : MeasureCells := ⟨some "SA", some ReferenceMeasure.absentKey, some .zero⟩
    (absent.sameKey below).Selects ∧ ¬(absent.found below).Selects := by
  decide +kernel

end MeasureCells

namespace Measure

theorem agrees_iff_text (one two : Measure) : one.agrees two = true ↔ one.text = two.text := by
  rw [agrees_iff]
  exact ⟨congrArg text, text_injective⟩

theorem agrees_iff_sameKey (one two : Measure) :
    one.agrees two = true ↔ (one.spelling.cells.sameKey two.spelling.cells).Selects := by
  rw [ReferenceMeasure.sameKey_cells, Truth.selects_known,
    ReferenceMeasure.sameKey_eq_sameComponents _ _ one.presence_spelling two.presence_spelling,
    sameComponents_spelling, agrees_iff]

/-- Rows that get past the checks have the same key exactly when one is found by the components of
the other. Measures are equal by their components exactly when their texts are equal, and these
exactly when their rows have the same key; and every measure is equal to itself. -/
theorem identities_agree :
    (∀ left right : MeasureCells, left.Checked → right.Checked →
      ((left.sameKey right).Selects ↔ (left.found right).Selects)) ∧
    (∀ one two : Measure, (one.agrees two = true ↔ one.text = two.text) ∧
      (one.text = two.text ↔ (one.spelling.cells.sameKey two.spelling.cells).Selects)) ∧
    ∀ measure : Measure, measure.agrees measure = true := by
  refine ⟨fun left right leftChecked rightChecked =>
    MeasureCells.sameKey_iff_found leftChecked rightChecked, ?_, agrees_self⟩
  intro one two
  refine ⟨agrees_iff_text one two, ?_⟩
  rw [← agrees_iff_text, agrees_iff_sameKey]

theorem identities_agree_below :
    let below : MeasureCells :=
      ⟨some "SA", some ReferenceMeasure.absentKey, some ReferenceMeasure.absentKey⟩
    let plain : MeasureCells := ⟨some "PGA", none, none⟩
    below.Checked ∧ plain.Checked ∧ ¬(plain.sameKey below).Selects ∧
      (below.found below).Selects := by
  intro below plain
  have belowChecked : below.Checked := ⟨by decide +kernel, by decide +kernel⟩
  have plainChecked : plain.Checked := ⟨by decide +kernel, by decide +kernel⟩
  refine ⟨belowChecked, plainChecked, ?_, ?_⟩
  · rw [identities_agree.1 plain below plainChecked belowChecked]
    decide +kernel
  · rw [← identities_agree.1 below below belowChecked belowChecked]
    decide +kernel

end Measure

end HazardStore
