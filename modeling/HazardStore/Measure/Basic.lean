import HazardStore.Violation
/-!
Intensity measures. A measure is a kind without components or a spectral acceleration with a period
and a damping that are positive and finite; the type admits nothing else, so the presence rule needs
no check after construction.
-/

namespace HazardStore

structure PositiveNumber where
  value : Double
  isFinite : value.isFinite = true
  isPositive : value.isPositive = true
deriving DecidableEq

inductive Measure where
  | simple (kind : MeasureKind) (notSpectral : kind.isSpectral = false)
  | spectral (period damping : PositiveNumber)
deriving DecidableEq

namespace Measure

def kind : Measure → MeasureKind
  | .simple kind _ => kind
  | .spectral _ _ => .spectralAcceleration

def period? : Measure → Option Double
  | .simple _ _ => none
  | .spectral period _ => some period.value

def damping? : Measure → Option Double
  | .simple _ _ => none
  | .spectral _ damping => some damping.value

def sameComponent : Option Double → Option Double → Bool
  | none, none => true
  | some left, some right => left.sameNumber right
  | _, _ => false

/-- Measures agree when their kinds do and their components are equal as numbers. -/
def agrees (left right : Measure) : Bool :=
  decide (left.kind = right.kind) && sameComponent left.period? right.period? &&
    sameComponent left.damping? right.damping?

def ofKind (kind : MeasureKind) : Except Violation Measure :=
  if spectral : kind.isSpectral = false then .ok (.simple kind spectral)
  else .error .componentsRequired

def positive (component : SpectralComponent) (value : Double) :
    Except Violation PositiveNumber :=
  if finite : value.isFinite = true then
    if positive : value.isPositive = true then .ok ⟨value, finite, positive⟩
    else .error (.notPositive component value)
  else .error (.notPositive component value)

/-- A spectral measure; the period is judged before the damping. -/
def ofParameters (period damping : Double) : Except Violation Measure := do
  let checkedPeriod ← positive .period period
  let checkedDamping ← positive .damping damping
  return .spectral checkedPeriod checkedDamping

/-- The measure of a stored code and components: both present for the spectral code, both absent for
every other. -/
def ofComponents (code : String) (period? damping? : Option Double) : Except Violation Measure :=
  match MeasureKind.ofCode? code with
  | none => .error (.unknownKind code)
  | some kind =>
      match kind.isSpectral, period?, damping? with
      | true, some period, some damping => ofParameters period damping
      | true, _, _ => .error (.componentAbsent code)
      | false, none, none => ofKind kind
      | false, _, _ => .error (.componentPresent code)

end Measure

end HazardStore
