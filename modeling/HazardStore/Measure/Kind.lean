/-!
Kinds of intensity measure and the short codes they are stored under. Spectral acceleration is the
only kind that carries a period and a damping.
-/

namespace HazardStore

inductive MeasureKind where
  | peakAcceleration
  | peakVelocity
  | peakDisplacement
  | ariasIntensity
  | significantDuration
  | mercalliIntensity
  | spectralAcceleration
deriving DecidableEq

namespace MeasureKind

/-- Every kind, in the order in which messages list their codes. -/
def all : List MeasureKind :=
  [.peakAcceleration, .peakVelocity, .peakDisplacement, .ariasIntensity, .significantDuration,
    .mercalliIntensity, .spectralAcceleration]

def code : MeasureKind → String
  | .peakAcceleration => "PGA"
  | .peakVelocity => "PGV"
  | .peakDisplacement => "PGD"
  | .ariasIntensity => "IA"
  | .significantDuration => "RSD"
  | .mercalliIntensity => "MMI"
  | .spectralAcceleration => "SA"

def isSpectral (kind : MeasureKind) : Bool :=
  decide (kind = .spectralAcceleration)

def ofCode? (code : String) : Option MeasureKind :=
  all.find? (fun kind => kind.code == code)

theorem mem_all (kind : MeasureKind) : kind ∈ all := by
  cases kind <;> decide

theorem code_injective {left right : MeasureKind} (same : left.code = right.code) :
    left = right := by
  revert same
  cases left <;> cases right <;> decide

theorem ofCode?_eq_some_iff (code : String) (kind : MeasureKind) :
    ofCode? code = some kind ↔ kind.code = code := by
  constructor
  · intro found
    simpa using List.find?_some found
  · rintro rfl
    cases kind <;> decide

end MeasureKind

end HazardStore
