import HazardStore.Double.Shortest
/-!
Doubles in writing. Both forms write the shortest digits that identify the number; they differ in
whether a whole number keeps a fraction and where an exponent takes over.
-/

namespace HazardStore.Double

structure Layout where
  /-- Whole numbers are written with `.0`. -/
  keepsFraction : Bool
  /-- Whether a number whose leading digit has this exponent is written without an exponent. -/
  isPositional : Int → Bool

/-- Messages and measure texts are always positional, and a whole number has no point. -/
def messageLayout : Layout where
  keepsFraction := false
  isPositional := fun _ => true

/-- Reports on stored numbers use an exponent below 0.0001 and from 10^16 on; without one they
always show a fraction. -/
def reportLayout : Layout where
  keepsFraction := true
  isPositional := fun leading => decide (-4 ≤ leading) && decide (leading < 16)

/-- Digits around a point; no point without a fraction. -/
def pointed (whole fraction : List Char) : List Char :=
  if fraction = [] then whole else whole ++ '.' :: fraction

def positionalText (layout : Layout) (decimal : Decimal) : List Char :=
  let (whole, fraction) := decimal.positional
  if fraction = [] ∧ layout.keepsFraction then whole ++ ['.', '0'] else pointed whole fraction

def exponentText (decimal : Decimal) : List Char :=
  pointed (decimal.numerals.take 1) (decimal.numerals.drop 1) ++
    'e' :: (toString decimal.leadingExponent).toList

def Layout.decimalText (layout : Layout) (decimal : Decimal) : List Char :=
  if decimal.digits = 0 ∨ layout.isPositional decimal.leadingExponent then
    positionalText layout decimal
  else exponentText decimal

def signed (negative : Bool) (text : List Char) : List Char :=
  if negative then '-' :: text else text

def Layout.text (layout : Layout) : Double → List Char
  | .nan => ['N', 'a', 'N']
  | .infinite negative => signed negative ['i', 'n', 'f']
  | .finite negative code => signed negative (layout.decimalText (shortest code.val))

def text (value : Double) : List Char :=
  messageLayout.text value

def reportText (value : Double) : List Char :=
  reportLayout.text value

end HazardStore.Double
