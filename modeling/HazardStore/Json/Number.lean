import HazardStore.Double.Rounding
import HazardStore.Json.Reader
/-!
JSON numbers. Integers are kept apart from other numbers as long as they fit 64 bits. Of any other
number as many digits are used as 64 bits hold, and the rest is scaled by one multiplication or
division with the double next to a power of ten, so that the result may be a neighbour of the
nearest double.
-/

namespace HazardStore.Json

inductive Number where
  | natural (value : Nat)
  | negative (value : Int)
  | double (value : Double)

namespace Number

def largestPower : Nat := 308

def powerCode (power : Nat) : Nat :=
  Double.codeOfRatio (Nat.pow 10 power) 1

def timesPower (code power : Nat) : Nat :=
  Double.codeOfRatio (Double.unitsOfCode code * Double.unitsOfCode (powerCode power))
    (Double.unitsPerOne * Double.unitsPerOne)

def overPower (code power : Nat) : Nat :=
  Double.codeOfRatio (Double.unitsOfCode code) (Double.unitsOfCode (powerCode power))

/-- Division by a power of ten, in steps of the largest power where one does not do. A magnitude
that has vanished is not divided again. -/
def shrink (code : Nat) (power : Nat) : Nat :=
  if power ≤ largestPower then overPower code power
  else if code = 0 then 0
  else shrink (overPower code largestPower) (power - largestPower)
termination_by power
decreasing_by simp only [largestPower] at *; omega

/-- The magnitude code of `significand · 10^exponent`; none where that is out of range. -/
def scaledCode? (significand : Nat) (exponent : Int) : Option Nat :=
  let code := Double.codeOfRatio significand 1
  match exponent with
  | .negSucc before => some (shrink code (before + 1))
  | .ofNat power =>
      if code = 0 then some 0
      else if power ≤ largestPower then
        some (timesPower code power) |>.filter (fun scaled => decide (scaled < finiteMagnitudes))
      else none

def significandBound : Nat := UInt64.size

/-- Appends digits to a significand while the result fits, and counts those that are left over. -/
def absorb (significand : Nat) : List Char → Nat × Nat
  | [] => (significand, 0)
  | digit :: others =>
      let longer := significand * 10 + (digit.toNat - '0'.toNat)
      if longer < significandBound then absorb longer others
      else (significand, (digit :: others).length)

/-- An integer without a sign: a zero alone, or digits that do not begin with one. -/
def wholeDigits : Reader (List Char) := do
  let text ← Reader.digits
  match text with
  | [] => let _ ← Reader.next; throw .malformed
  | '0' :: _ :: _ => throw .malformed
  | _ => return text

def someDigits : Reader (List Char) := do
  let text ← Reader.digits
  if text.isEmpty then
    let _ ← Reader.next
    throw .malformed
  return text

def exponent : Reader Int := do
  let sign? ← Reader.peek?
  if sign? = some '+' ∨ sign? = some '-' then Reader.drop
  let magnitude := Nat.ofDigitChars 10 (← someDigits) 0
  return if sign? = some '-' then -(magnitude : Int) else magnitude

def exponent? : Reader (Option Int) := do
  let mark? ← Reader.peek?
  if mark? = some 'e' ∨ mark? = some 'E' then
    Reader.drop
    return some (← exponent)
  else return none

def scaled (isNegative : Bool) (significand : Nat) (power : Int) : Reader Number :=
  match scaledCode? significand power with
  | some code => return .double (Double.ofCode isNegative code)
  | none => throw .malformed

/-- An integer that fits 64 bits with its sign; minus zero is no integer. -/
def integral (isNegative : Bool) (value : Nat) : Number :=
  if !isNegative then .natural value
  else if value = 0 ∨ Nat.pow 2 63 < value then .double (Double.ofRatio true value 1)
  else .negative (-(value : Int))

def read (isNegative : Bool) : Reader Number := do
  let (significand, leftOver) := absorb 0 (← wholeDigits)
  if (← Reader.peek?) = some '.' then
    Reader.drop
    let fraction ← someDigits
    let (longer, ignored) := absorb significand fraction
    let places : Int := leftOver - (fraction.length - ignored : Nat)
    scaled isNegative longer (places + (← exponent?).getD 0)
  else
    match ← exponent? with
    | some power => scaled isNegative significand (leftOver + power)
    | none =>
        if leftOver = 0 then return integral isNegative significand
        else scaled isNegative significand leftOver

def toDouble : Number → Double
  | .natural value => Double.ofRatio false value 1
  | .negative value => Double.ofRatio true value.natAbs 1
  | .double value => value

def toInt? : Number → Option Int
  | .natural value => some value
  | .negative value => some value
  | .double _ => none

end Number

end HazardStore.Json
