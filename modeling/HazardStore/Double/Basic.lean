/-!
Double-precision numbers as data. A finite number is a sign and a magnitude code; codes count the
non-negative finite numbers upwards from zero, so they are ordered as the magnitudes they stand for.
There is one not-a-number. Nothing here is computed with hardware numbers, so every fact about a
stored value can be proved and evaluated.
-/

namespace HazardStore

/-- How many finite magnitudes there are: 2047 exponent fields of 52-bit fractions. -/
def finiteMagnitudes : Nat := 2047 * Nat.pow 2 52

inductive Double where
  | nan
  | infinite (negative : Bool)
  | finite (negative : Bool) (code : Fin finiteMagnitudes)
deriving DecidableEq

namespace Double

def signBit (negative : Bool) : Nat :=
  if negative then Nat.pow 2 63 else 0

/-- The sixty-four bits of the interchange format; every not-a-number pattern is read alike. -/
def ofBits (bits : UInt64) : Double :=
  let negative := decide (Nat.pow 2 63 ≤ bits.toNat)
  let code := bits.toNat % Nat.pow 2 63
  if finite : code < finiteMagnitudes then .finite negative ⟨code, finite⟩
  else if code = finiteMagnitudes then .infinite negative
  else .nan

/-- The bits of a number; not-a-number is written as the quiet pattern without a payload. -/
def toBits : Double → UInt64
  | .nan => 0x7ff8000000000000
  | .infinite negative => UInt64.ofNat (signBit negative + finiteMagnitudes)
  | .finite negative code => UInt64.ofNat (signBit negative + code.val)

def zero : Double := .finite false ⟨0, by decide⟩

/-- A finite magnitude counted in units of the least positive number, which is 2 to the power -1074.
The first 2^52 codes are evenly spaced; after that each run of 2^52 codes doubles the spacing. -/
def unitsOfCode (code : Nat) : Nat :=
  let run := Nat.pow 2 52
  if code < run then code else (run + code % run) * Nat.pow 2 (code / run - 1)

def isFinite : Double → Bool
  | .finite _ _ => true
  | _ => false

def isPositive : Double → Bool
  | .nan => false
  | .infinite negative => !negative
  | .finite negative code => !negative && decide (code.val ≠ 0)

/-- Numeric equality: not-a-number differs from itself and the two zeros agree. -/
def sameNumber : Double → Double → Bool
  | .infinite left, .infinite right => left == right
  | .finite left code, .finite right other =>
      code == other && (left == right || decide (code.val = 0))
  | _, _ => false

/-- Positive finite numbers are equal exactly when they are identical. -/
theorem sameNumber_iff_of_positive (left right : Double) (finite : left.isFinite = true)
    (positive : left.isPositive = true) : left.sameNumber right = true ↔ left = right := by
  cases left with
  | nan => cases finite
  | infinite => cases finite
  | finite sign code =>
      simp only [isPositive, Bool.and_eq_true, Bool.not_eq_true', decide_eq_true_eq] at positive
      cases right <;> simp [sameNumber, positive.2]
      exact and_comm

end Double

end HazardStore
