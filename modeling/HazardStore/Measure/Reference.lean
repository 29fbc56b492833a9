import HazardStore.Measure.Text
/-!
The reference measures that every store is seeded with.
-/

namespace HazardStore

/-- A measure as a table row spells it: its text, its code and its components. -/
structure ReferenceMeasure where
  text : String
  code : String
  period? : Option Double
  damping? : Option Double
deriving DecidableEq

namespace ReferenceMeasure

def ofKind (kind : MeasureKind) : ReferenceMeasure :=
  ⟨kind.code, kind.code, none, none⟩

/-- Every kind without components, and spectral acceleration at a tenth of a second. -/
def seeds : List ReferenceMeasure :=
  (MeasureKind.all.filter (fun kind => !kind.isSpectral)).map ofKind ++
    [⟨"SA(0.1)", MeasureKind.spectralAcceleration.code, some ((⟨1, -1⟩ : Decimal).toDouble false),
      some Measure.defaultDamping⟩]

def measure (reference : ReferenceMeasure) : Except Violation Measure :=
  Measure.ofComponents reference.code reference.period? reference.damping?

end ReferenceMeasure

end HazardStore
