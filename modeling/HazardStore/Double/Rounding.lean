import HazardStore.Double.Basic
/-!
Rounding of exact quotients to double precision, to nearest with ties to even. A quotient is rounded
as a count of units 2^-1074 of its binade's spacing, and the code of the result is the binade plus
that count: a carry into the next binade and overflow to infinity need no cases of their own.
-/

namespace HazardStore

/-- The natural number nearest to a quotient; a half goes to the even neighbour. -/
def roundHalfEven (num den : Nat) : Nat :=
  let whole := num / den
  let rest := num % den
  if 2 * rest < den then whole
  else if den < 2 * rest then whole + 1
  else if whole % 2 = 0 then whole else whole + 1

theorem roundHalfEven_scale (num den factor : Nat) (positive : 0 < factor) :
    roundHalfEven (num * factor) (den * factor) = roundHalfEven num den := by
  have whole : num * factor / (den * factor) = num / den := Nat.mul_div_mul_right num den positive
  have rest : num * factor % (den * factor) = num % den * factor :=
    Nat.mul_mod_mul_right factor num den
  have below : 2 * (num % den * factor) < den * factor ↔ 2 * (num % den) < den := by
    rw [← Nat.mul_assoc]; exact Nat.mul_lt_mul_right positive
  have above : den * factor < 2 * (num % den * factor) ↔ den < 2 * (num % den) := by
    rw [← Nat.mul_assoc]; exact Nat.mul_lt_mul_right positive
  simp only [roundHalfEven, whole, rest, below, above]

theorem roundHalfEven_one (num : Nat) : roundHalfEven num 1 = num := by
  simp [roundHalfEven, Nat.mod_one]

namespace Double

/-- Which run of 2^52 codes a count of units falls into: below 2^53 units there is none to leave,
and each doubling after that is one more. -/
def binade (num den : Nat) : Nat :=
  let height := num / (den * Nat.pow 2 53)
  if height = 0 then 0 else height.log2 + 1

/-- The code nearest to `num / den` units, not yet bounded. -/
def codeOfUnits (num den : Nat) : Nat :=
  let run := binade num den
  run * Nat.pow 2 52 + roundHalfEven num (den * Nat.pow 2 run)

def ofCode (negative : Bool) (code : Nat) : Double :=
  if bounded : code < finiteMagnitudes then .finite negative ⟨code, bounded⟩ else .infinite negative

/-- How many units, least positive numbers, make one. -/
def unitsPerOne : Nat := Nat.pow 2 1074

def codeOfRatio (num den : Nat) : Nat :=
  codeOfUnits (num * unitsPerOne) den

def ofRatio (negative : Bool) (num den : Nat) : Double :=
  ofCode negative (codeOfRatio num den)

theorem codeOfUnits_scale (num den factor : Nat) (positive : 0 < factor) :
    codeOfUnits (num * factor) (den * factor) = codeOfUnits num den := by
  have shuffle : ∀ power : Nat, den * factor * power = den * power * factor := by
    intro power; rw [Nat.mul_assoc, Nat.mul_comm factor, ← Nat.mul_assoc]
  have run : binade (num * factor) (den * factor) = binade num den := by
    simp only [binade, shuffle, Nat.mul_div_mul_right _ _ positive]
  simp only [codeOfUnits, run, shuffle, roundHalfEven_scale _ _ _ positive]

/-- Only the quotient matters, not the fraction that denotes it. -/
theorem ofRatio_scale (negative : Bool) (num den factor : Nat) (positive : 0 < factor) :
    ofRatio negative (num * factor) (den * factor) = ofRatio negative num den := by
  have shuffle : num * factor * unitsPerOne = num * unitsPerOne * factor := by
    rw [Nat.mul_assoc, Nat.mul_comm factor, ← Nat.mul_assoc]
  rw [ofRatio, ofRatio, codeOfRatio, codeOfRatio, shuffle, codeOfUnits_scale _ _ _ positive]

end Double

end HazardStore
