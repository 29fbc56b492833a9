import HazardStore.Decimal
/-!
The decimal that identifies a finite magnitude with the fewest digits. For one, two, … seventeen
digits the two neighbours of the magnitude on that decimal grid are read back; the first grid on
which one of them gives the magnitude again wins. Of two the nearer is taken, and of two equally
near the larger. What is chosen reads back because it was chosen by reading it back.
-/

namespace HazardStore.Double

/-- The exact decimal value of a magnitude: units are powers of a half, so finitely many places do.
-/
def exactDecimal (code : Nat) : Decimal :=
  ⟨unitsOfCode code * Nat.pow 5 1074, -1074⟩

/-- Whether ten to the power `exponent` is at most the magnitude. -/
def powerFits (code : Nat) (exponent : Int) : Bool :=
  match exponent with
  | .ofNat power => decide (Nat.pow 10 power * unitsPerOne ≤ unitsOfCode code)
  | .negSucc before => decide (unitsPerOne ≤ unitsOfCode code * Nat.pow 10 (before + 1))

/-- The exponent of the leading decimal digit of a positive magnitude. The binary exponent bounds it
from both sides to within one. -/
def leadingPlace (code : Nat) : Int :=
  let binary : Int := (unitsOfCode code).log2 - 1074
  let least := Int.fdiv (binary * 30103) 100000
  if powerFits code (least + 1) then least + 1 else least

/-- A magnitude as a quotient in grid steps of ten to the power `exponent`. -/
def inGridSteps (code : Nat) (exponent : Int) : Nat × Nat :=
  match exponent with
  | .ofNat power => (unitsOfCode code, Nat.pow 10 power * unitsPerOne)
  | .negSucc before => (unitsOfCode code * Nat.pow 10 (before + 1), unitsPerOne)

def readsBack (code : Nat) (decimal : Decimal) : Bool :=
  decide (decimal.toDouble false = .ofCode false code)

/-- The grid point with `places` digits that reads back as the magnitude, if there is one. -/
def onGrid? (code : Nat) (leading : Int) (places : Nat) : Option Decimal :=
  let exponent := leading - places + 1
  let (num, den) := inGridSteps code exponent
  let below : Decimal := ⟨num / den, exponent⟩
  let above : Decimal := ⟨num / den + 1, exponent⟩
  match readsBack code below, readsBack code above with
  | true, true => if 2 * (num % den) < den then some below else some above
  | true, false => some below
  | false, true => some above
  | false, false => none

/-- The shortest decimal of a finite magnitude; zero is the digit zero. -/
def shortest (code : Nat) : Decimal :=
  if code = 0 then ⟨0, 0⟩
  else
    let leading := leadingPlace code
    let found := (List.range 17).findSome? (fun fewer => onGrid? code leading (fewer + 1))
    (found.getD (exactDecimal code)).normalised

end HazardStore.Double
