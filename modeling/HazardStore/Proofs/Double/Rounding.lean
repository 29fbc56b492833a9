import Mathlib
import HazardStore.Decimal
/-!
Rounding settled by values. A decimal is rounded as the quotient it denotes: the exponents that are
decided without expanding the decimal are decided as the expansion would decide them, so that equal
quotients give equal doubles, and a finite magnitude is its own rounding.
-/

namespace HazardStore

theorem roundHalfEven_of_tiny (num den : Nat) (tiny : 2 * num < den) : roundHalfEven num den = 0 := by
  have below : num < den := by omega
  unfold roundHalfEven
  rw [Nat.div_eq_of_lt below, Nat.mod_eq_of_lt below, if_pos tiny]

theorem div_le_roundHalfEven (num den : Nat) : num / den ≤ roundHalfEven num den := by
  unfold roundHalfEven
  dsimp only
  split
  · exact Nat.le_refl _
  · split
    · exact Nat.le_succ _
    · split
      · exact Nat.le_refl _
      · exact Nat.le_succ _

theorem roundHalfEven_mul (num den : Nat) (positive : 0 < den) :
    roundHalfEven (num * den) den = num := by
  have scaled := roundHalfEven_scale num 1 den positive
  rw [Nat.one_mul, roundHalfEven_one] at scaled
  exact scaled

namespace Double

theorem finiteMagnitudes_eq : finiteMagnitudes = 2047 * 2 ^ 52 :=
  rfl

theorem unitsOfCode_eq (code : Nat) : unitsOfCode code =
    if code < 2 ^ 52 then code
    else (2 ^ 52 + code % 2 ^ 52) * 2 ^ (code / 2 ^ 52 - 1) :=
  rfl

theorem binade_eq (num den : Nat) : binade num den =
    if num / (den * 2 ^ 53) = 0 then 0 else (num / (den * 2 ^ 53)).log2 + 1 :=
  rfl

theorem codeOfUnits_eq (num den : Nat) : codeOfUnits num den =
    binade num den * 2 ^ 52 + roundHalfEven num (den * 2 ^ binade num den) :=
  rfl

theorem unitsPerOne_eq : unitsPerOne = 2 ^ 1074 := by
  unfold unitsPerOne
  generalize 1074 = exponent
  rfl

theorem binade_eq_zero (num den : Nat) (low : num < den * 2 ^ 53) : binade num den = 0 := by
  rw [binade_eq]
  rw [Nat.div_eq_of_lt low]
  rfl

/-- Above the first two runs the spacing doubles from run to run. -/
theorem binade_eq_succ (num den run : Nat) (positive : 0 < den)
    (above : den * 2 ^ 53 * 2 ^ run ≤ num) (below : num < den * 2 ^ 53 * 2 ^ (run + 1)) :
    binade num den = run + 1 := by
  have unit : 0 < den * 2 ^ 53 := Nat.mul_pos positive (Nat.two_pow_pos 53)
  have least : 2 ^ run ≤ num / (den * 2 ^ 53) := by
    rw [Nat.le_div_iff_mul_le unit, Nat.mul_comm]
    exact above
  have most : num / (den * 2 ^ 53) < 2 ^ (run + 1) := by
    rw [Nat.div_lt_iff_lt_mul unit, Nat.mul_comm]
    exact below
  have nonzero : num / (den * 2 ^ 53) ≠ 0 := by
    have := Nat.two_pow_pos run
    omega
  rw [binade_eq]
  rw [if_neg nonzero, (Nat.log2_eq_iff nonzero).2 ⟨least, most⟩]

theorem lt_binade (num den run : Nat) (positive : 0 < den)
    (above : den * 2 ^ 53 * 2 ^ run ≤ num) : run < binade num den := by
  have unit : 0 < den * 2 ^ 53 := Nat.mul_pos positive (Nat.two_pow_pos 53)
  have least : 2 ^ run ≤ num / (den * 2 ^ 53) := by
    rw [Nat.le_div_iff_mul_le unit, Nat.mul_comm]
    exact above
  have nonzero : num / (den * 2 ^ 53) ≠ 0 := by
    have := Nat.two_pow_pos run
    omega
  rw [binade_eq]
  rw [if_neg nonzero, Nat.lt_succ_iff, Nat.le_log2 nonzero]
  exact least

theorem binade_mul_le (num den : Nat) (nonzero : binade num den ≠ 0) :
    den * 2 ^ binade num den * 2 ^ 52 ≤ num := by
  have within : den * 2 ^ 53 * (num / (den * 2 ^ 53)) ≤ num := Nat.mul_div_le num (den * 2 ^ 53)
  rw [binade_eq] at nonzero ⊢
  generalize num / (den * 2 ^ 53) = height at *
  by_cases low : height = 0
  · exact absurd (if_pos low) nonzero
  · have power : 2 ^ (height.log2 + 1) * 2 ^ 52 = 2 ^ 53 * 2 ^ height.log2 := by
      rw [← Nat.pow_add, ← Nat.pow_add]
      congr 1
      omega
    simp only [if_neg low]
    calc den * 2 ^ (height.log2 + 1) * 2 ^ 52
        = den * 2 ^ 53 * 2 ^ height.log2 := by rw [Nat.mul_assoc, power, Nat.mul_assoc]
      _ ≤ den * 2 ^ 53 * height := Nat.mul_le_mul_left _ (Nat.log2_self_le low)
      _ ≤ num := within

theorem unitsPerOne_pos : 0 < unitsPerOne := by
  rw [unitsPerOne_eq]
  generalize 1074 = exponent
  exact Nat.two_pow_pos exponent

theorem codeOfUnits_of_tiny (num den : Nat) (tiny : 2 * num < den) : codeOfUnits num den = 0 := by
  have low : num < den * 2 ^ 53 := by
    have := Nat.le_mul_of_pos_right den (Nat.two_pow_pos 53)
    omega
  rw [codeOfUnits_eq]
  simp only [binade_eq_zero num den low, Nat.zero_mul, Nat.zero_add, Nat.pow_zero, Nat.mul_one]
  exact roundHalfEven_of_tiny num den tiny

/-- From two to the power 1024 on, which is where the run 2046 begins, no finite code is left. -/
theorem codeOfUnits_of_huge (num den run : Nat) (positive : 0 < den) (last : 2045 ≤ run)
    (huge : den * 2 ^ 53 * 2 ^ run ≤ num) : finiteMagnitudes ≤ codeOfUnits num den := by
  have high : run < binade num den := lt_binade num den run positive huge
  have unit : 0 < den * 2 ^ binade num den := Nat.mul_pos positive (Nat.two_pow_pos _)
  have count : 2 ^ 52 ≤ num / (den * 2 ^ binade num den) := by
    rw [Nat.le_div_iff_mul_le unit, Nat.mul_comm]
    exact binade_mul_le num den (by omega)
  have rounded := div_le_roundHalfEven num (den * 2 ^ binade num den)
  have runs : 2046 * 2 ^ 52 ≤ binade num den * 2 ^ 52 := Nat.mul_le_mul_right _ (by omega)
  rw [codeOfUnits_eq, finiteMagnitudes_eq]
  omega

/-- A magnitude counted in units is its own rounding. -/
theorem codeOfUnits_unitsOfCode (code : Nat) : codeOfUnits (unitsOfCode code) 1 = code := by
  rw [unitsOfCode_eq]
  split
  · rename_i subnormal
    have low : code < 1 * 2 ^ 53 := by omega
    rw [codeOfUnits_eq]
    simp only [binade_eq_zero code 1 low, Nat.pow_zero, Nat.mul_one, roundHalfEven_one]
    omega
  · rename_i normal
    have split := Nat.div_add_mod code (2 ^ 52)
    have fraction := Nat.mod_lt code (Nat.two_pow_pos 52)
    have positive : 1 ≤ code / 2 ^ 52 := by omega
    generalize code / 2 ^ 52 = field at *
    generalize code % 2 ^ 52 = rest at *
    have run : binade ((2 ^ 52 + rest) * 2 ^ (field - 1)) 1 = field - 1 := by
      by_cases first : field = 1
      · subst first
        apply binade_eq_zero
        omega
      · obtain ⟨before, rfl⟩ : ∃ before, field = before + 2 := ⟨field - 2, by omega⟩
        apply binade_eq_succ
        · exact Nat.one_pos
        · calc 1 * 2 ^ 53 * 2 ^ before = 2 ^ 52 * 2 ^ (before + 1) := by
                rw [Nat.one_mul, ← Nat.pow_add, ← Nat.pow_add]
                congr 1
                omega
            _ ≤ (2 ^ 52 + rest) * 2 ^ (before + 1) := Nat.mul_le_mul_right _ (Nat.le_add_right _ _)
        · rw [Nat.one_mul]
          exact Nat.mul_lt_mul_of_pos_right (by omega) (Nat.two_pow_pos _)
    rw [codeOfUnits_eq]
    simp only [run, Nat.one_mul, roundHalfEven_mul _ _ (Nat.two_pow_pos (field - 1))]
    omega

end Double

namespace Decimal

def numerator (decimal : Decimal) : Nat :=
  match decimal.exponent with
  | .ofNat power => decimal.digits * 10 ^ power
  | .negSucc _ => decimal.digits

def denominator (decimal : Decimal) : Nat :=
  match decimal.exponent with
  | .ofNat _ => 1
  | .negSucc before => 10 ^ (before + 1)

theorem denominator_pos (decimal : Decimal) : 0 < decimal.denominator := by
  unfold denominator
  split
  · exact Nat.one_pos
  · exact Nat.pow_pos (by decide)

def SameValue (left right : Decimal) : Prop :=
  left.numerator * right.denominator = right.numerator * left.denominator

theorem SameValue.trans {left middle right : Decimal} (first : left.SameValue middle)
    (second : middle.SameValue right) : left.SameValue right := by
  unfold SameValue at first second ⊢
  apply Nat.eq_of_mul_eq_mul_right middle.denominator_pos
  calc left.numerator * right.denominator * middle.denominator
      = left.numerator * middle.denominator * right.denominator := Nat.mul_right_comm _ _ _
    _ = middle.numerator * left.denominator * right.denominator := by rw [first]
    _ = middle.numerator * right.denominator * left.denominator := Nat.mul_right_comm _ _ _
    _ = right.numerator * middle.denominator * left.denominator := by rw [second]
    _ = right.numerator * left.denominator * middle.denominator := Nat.mul_right_comm _ _ _

private theorem two_pow_le_ten_pow (power : Nat) : 2 ^ (3 * power) ≤ 10 ^ power := by
  rw [Nat.pow_mul]
  exact Nat.pow_le_pow_left (by decide) power

private theorem ofRatio_of_huge (negative : Bool) (digits power : Nat) (nonzero : digits ≠ 0)
    (large : exponentBound < power) :
    Double.ofRatio negative (digits * 10 ^ power) 1 = .infinite negative := by
  obtain ⟨run, top⟩ : ∃ run, 53 + run = 3 * power + 1074 := ⟨3 * power + 1021, by omega⟩
  have last : 2045 ≤ run := by
    unfold exponentBound at large
    omega
  have huge : 1 * 2 ^ 53 * 2 ^ run ≤ digits * 10 ^ power * Double.unitsPerOne := by
    calc 1 * 2 ^ 53 * 2 ^ run = 2 ^ (3 * power) * Double.unitsPerOne := by
            rw [Nat.one_mul, ← pow_add, top, pow_add, Double.unitsPerOne_eq]
      _ ≤ 10 ^ power * Double.unitsPerOne := Nat.mul_le_mul_right _ (two_pow_le_ten_pow power)
      _ ≤ digits * 10 ^ power * Double.unitsPerOne :=
          Nat.mul_le_mul_right _ (Nat.le_mul_of_pos_left _ (Nat.pos_of_ne_zero nonzero))
  have none := Double.codeOfUnits_of_huge _ 1 _ Nat.one_pos last huge
  unfold Double.ofRatio Double.ofCode Double.codeOfRatio
  rw [dif_neg (Nat.not_lt.2 none)]

private theorem ofRatio_of_tiny (negative : Bool) (digits power : Nat)
    (small : digits.log2 + 1 + exponentBound < power) :
    Double.ofRatio negative digits (10 ^ power) = .ofCode negative 0 := by
  have bounded : digits < 2 ^ (digits.log2 + 1) := Nat.lt_log2_self
  have tiny : 2 * (digits * Double.unitsPerOne) < 10 ^ power := by
    calc 2 * (digits * Double.unitsPerOne)
        < 2 * (2 ^ (digits.log2 + 1) * Double.unitsPerOne) := by
          have := Nat.mul_lt_mul_of_pos_right bounded Double.unitsPerOne_pos
          omega
      _ = 2 ^ (1 + (digits.log2 + 1) + 1074) := by
          rw [Nat.pow_add 2 (1 + _), Nat.pow_add 2 1, Nat.pow_one, Double.unitsPerOne_eq,
            Nat.mul_assoc]
      _ ≤ 2 ^ (3 * power) := by
          apply Nat.pow_le_pow_right (by decide)
          unfold exponentBound at small
          omega
      _ ≤ 10 ^ power := two_pow_le_ten_pow power
  unfold Double.ofRatio Double.codeOfRatio
  rw [Double.codeOfUnits_of_tiny _ _ tiny]

/-- The shortcuts of the rounding are the rounding of the quotient. -/
theorem toDouble_eq_ofRatio (negative : Bool) (decimal : Decimal) :
    decimal.toDouble negative = .ofRatio negative decimal.numerator decimal.denominator := by
  obtain ⟨digits, exponent⟩ := decimal
  by_cases zero : digits = 0
  · subst zero
    have tiny : 2 * (0 * Double.unitsPerOne) < (⟨0, exponent⟩ : Decimal).denominator := by
      rw [Nat.zero_mul]
      exact denominator_pos _
    have nothing : (⟨0, exponent⟩ : Decimal).numerator = 0 := by
      unfold numerator
      split <;> simp
    unfold toDouble Double.ofRatio Double.codeOfRatio
    rw [if_pos rfl, nothing, Double.codeOfUnits_of_tiny _ _ tiny]
  · unfold toDouble
    rw [if_neg zero]
    -- one shortcut is for great exponents and one for small ones, so the sign tells them apart
    cases exponent with
    | ofNat power =>
        by_cases large : (exponentBound : Int) < Int.ofNat power
        · rw [if_pos large]
          exact (ofRatio_of_huge negative digits power zero (Int.ofNat_lt.1 large)).symm
        · have notTiny :
              ¬Int.ofNat power < -((digits.log2 + 1 + exponentBound : Nat) : Int) := by
            have := Int.natCast_nonneg power
            simp only [Int.ofNat_eq_natCast]
            omega
          rw [if_neg large, if_neg notTiny]
          rfl
    | negSucc before =>
        have notLarge : ¬(exponentBound : Int) < Int.negSucc before := by
          have := Int.negSucc_lt_zero before
          omega
        rw [if_neg notLarge]
        by_cases small : Int.negSucc before < -((digits.log2 + 1 + exponentBound : Nat) : Int)
        · rw [if_pos small]
          apply (ofRatio_of_tiny negative digits (before + 1) _).symm
          rw [Int.negSucc_eq] at small
          omega
        · rw [if_neg small]
          rfl

theorem toDouble_congr (negative : Bool) {left right : Decimal} (same : left.SameValue right) :
    left.toDouble negative = right.toDouble negative := by
  rw [toDouble_eq_ofRatio, toDouble_eq_ofRatio,
    ← Double.ofRatio_scale negative left.numerator left.denominator right.denominator
      right.denominator_pos,
    ← Double.ofRatio_scale negative right.numerator right.denominator left.denominator
      left.denominator_pos,
    same, Nat.mul_comm left.denominator]

end Decimal

end HazardStore
