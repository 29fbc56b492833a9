import HazardStore.Double.Rounding
/-!
Decimal numbers `digits · 10^exponent`, their digits in writing, and the double nearest to one.
-/

namespace HazardStore

structure Decimal where
  digits : Nat
  exponent : Int
deriving DecidableEq

namespace Decimal

def numerals (decimal : Decimal) : List Char :=
  Nat.toDigits 10 decimal.digits

/-- The exponent that the leading digit has on its own. -/
def leadingExponent (decimal : Decimal) : Int :=
  decimal.exponent + decimal.numerals.length - 1

/-- The digits before and after the point. The whole part is never empty. -/
def positional (decimal : Decimal) : List Char × List Char :=
  match decimal.exponent with
  | .ofNat zeros => (decimal.numerals ++ List.replicate zeros '0', [])
  | .negSucc before =>
      let places := before + 1
      let padded := List.replicate (places + 1 - decimal.numerals.length) '0' ++ decimal.numerals
      padded.splitAt (padded.length - places)

def stripZeros : Nat → Decimal → Decimal
  | 0, decimal => decimal
  | fuel + 1, decimal =>
      if decimal.digits % 10 = 0 then stripZeros fuel ⟨decimal.digits / 10, decimal.exponent + 1⟩
      else decimal

def normalised (decimal : Decimal) : Decimal :=
  if decimal.digits = 0 then decimal else stripZeros decimal.digits.log2 decimal

/-- Beyond this exponent every non-zero decimal overflows, and with as many more places as it has
digits it vanishes. -/
def exponentBound : Nat := 400

/-- The double nearest to a decimal. Exponents that decide the result by themselves are not
expanded. -/
def toDouble (negative : Bool) (decimal : Decimal) : Double :=
  if decimal.digits = 0 then .ofCode negative 0
  else if (exponentBound : Int) < decimal.exponent then .infinite negative
  else if decimal.exponent < -((decimal.digits.log2 + 1 + exponentBound : Nat) : Int) then
    .ofCode negative 0
  else match decimal.exponent with
    | .ofNat power => .ofRatio negative (decimal.digits * Nat.pow 10 power) 1
    | .negSucc before => .ofRatio negative decimal.digits (Nat.pow 10 (before + 1))

end Decimal

end HazardStore
