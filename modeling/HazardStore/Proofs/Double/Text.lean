import HazardStore.Double.Printer
import HazardStore.Double.Reader
import HazardStore.Proofs.Double.Rounding
/-!
The text of a positive finite number. It is written with digits and at most one point, and reading
it gives the number again: the shortest decimal was chosen by reading it back, and neither stripping
zeros from it nor spreading it around a point changes what it denotes.
-/

namespace HazardStore

namespace Decimal

theorem SameValue.refl (decimal : Decimal) : decimal.SameValue decimal :=
  rfl

private theorem sameValue_tenth (digits : Nat) (exponent : Int) :
    (⟨digits, exponent + 1⟩ : Decimal).SameValue ⟨10 * digits, exponent⟩ := by
  have shift (power : Nat) : digits * 10 ^ (power + 1) = 10 * digits * 10 ^ power := by
    rw [Nat.pow_succ, Nat.mul_comm (10 ^ power), ← Nat.mul_assoc, Nat.mul_comm digits]
  cases exponent with
  | ofNat power => exact congrArg (· * 1) (shift power)
  | negSucc before =>
      cases before with
      | zero =>
          change digits * 10 ^ 0 * 10 ^ 1 = 10 * digits * 1
          omega
      | succ before => exact shift (before + 1)

theorem stripZeros_sameValue (fuel : Nat) (decimal : Decimal) :
    (stripZeros fuel decimal).SameValue decimal := by
  induction fuel generalizing decimal with
  | zero => exact SameValue.refl decimal
  | succ fuel ih =>
      unfold stripZeros
      split
      · rename_i divisible
        have digits : 10 * (decimal.digits / 10) = decimal.digits :=
          Nat.mul_div_cancel' (Nat.dvd_of_mod_eq_zero divisible)
        have tenth := sameValue_tenth (decimal.digits / 10) decimal.exponent
        rw [digits] at tenth
        exact (ih _).trans tenth
      · exact SameValue.refl decimal

theorem normalised_sameValue (decimal : Decimal) : decimal.normalised.SameValue decimal := by
  unfold normalised
  split
  · exact SameValue.refl decimal
  · exact stripZeros_sameValue _ decimal

theorem isDigit_of_mem_numerals (decimal : Decimal) :
    ∀ c ∈ decimal.numerals, c.isDigit = true :=
  fun _ member => Nat.isDigit_of_mem_toDigits (by decide) (by decide) member

theorem ofDigitChars_numerals (decimal : Decimal) :
    Nat.ofDigitChars 10 decimal.numerals 0 = decimal.digits :=
  Nat.ofDigitChars_ten_toDigits

private theorem isDigit_of_mem_zeros (count : Nat) :
    ∀ c ∈ List.replicate count '0', c.isDigit = true := by
  intro c member
  rw [List.eq_of_mem_replicate member]
  decide

/-- What the digits around the point of a decimal denote when they are read. -/
theorem positional_spec (decimal : Decimal) :
    decimal.positional.1 ≠ [] ∧
      (∀ c ∈ decimal.positional.1 ++ decimal.positional.2, c.isDigit = true) ∧
      (⟨Nat.ofDigitChars 10 (decimal.positional.1 ++ decimal.positional.2) 0,
        0 - (decimal.positional.2.length : Int)⟩ : Decimal).SameValue decimal := by
  obtain ⟨digits, exponent⟩ := decimal
  have digit := isDigit_of_mem_numerals ⟨digits, exponent⟩
  have value := ofDigitChars_numerals ⟨digits, exponent⟩
  have someDigit : (⟨digits, exponent⟩ : Decimal).numerals ≠ [] := Nat.toDigits_ne_nil
  cases exponent with
  | ofNat zeros =>
      unfold positional
      generalize (⟨digits, Int.ofNat zeros⟩ : Decimal).numerals = numerals at *
      refine ⟨?_, ?_, ?_⟩
      · exact fun empty => someDigit (List.append_eq_nil_iff.1 empty).1
      · intro c member
        rw [List.append_nil, List.mem_append] at member
        rcases member with inNumerals | inZeros
        · exact digit c inNumerals
        · exact isDigit_of_mem_zeros zeros c inZeros
      · rw [List.append_nil, Nat.ofDigitChars_append, value, Nat.ofDigitChars_replicate_zero]
        change 10 ^ zeros * digits * 10 ^ 0 * 1 = digits * 10 ^ zeros * 1
        rw [Nat.pow_zero, Nat.mul_one, Nat.mul_comm (10 ^ zeros)]
  | negSucc before =>
      unfold positional
      generalize (⟨digits, Int.negSucc before⟩ : Decimal).numerals = numerals at *
      simp only [List.splitAt_eq, List.take_append_drop]
      generalize paddedIs :
        List.replicate (before + 1 + 1 - numerals.length) '0' ++ numerals = padded
      -- the zeros in front leave a digit before the point
      have long : before + 1 < padded.length := by
        rw [← paddedIs, List.length_append, List.length_replicate]
        omega
      refine ⟨?_, ?_, ?_⟩
      · intro empty
        have short := congrArg List.length empty
        rw [List.length_take, List.length_nil] at short
        omega
      · intro c member
        rw [← paddedIs, List.mem_append] at member
        rcases member with inZeros | inNumerals
        · exact isDigit_of_mem_zeros _ c inZeros
        · exact digit c inNumerals
      · have places : (0 : Int) - ((padded.drop (padded.length - (before + 1))).length : Int) =
            Int.negSucc before := by
          rw [List.length_drop, Int.negSucc_eq]
          omega
        have whole : Nat.ofDigitChars 10 padded 0 = digits := by
          rw [← paddedIs, Nat.ofDigitChars_append, Nat.ofDigitChars_replicate_zero, Nat.mul_zero]
          exact value
        rw [places, whole]
        exact SameValue.refl _

end Decimal

namespace Double

private theorem toDouble_halves (units before : Nat) :
    (⟨units * 5 ^ (before + 1), Int.negSucc before⟩ : Decimal).toDouble false =
      .ofRatio false units (2 ^ (before + 1)) := by
  rw [Decimal.toDouble_eq_ofRatio,
    ← ofRatio_scale false units (2 ^ (before + 1)) (5 ^ (before + 1)) (Nat.pow_pos (by decide)),
    ← Nat.mul_pow]
  rfl

theorem exactDecimal_toDouble (code : Nat) :
    (exactDecimal code).toDouble false = .ofCode false code := by
  obtain ⟨before, last⟩ : ∃ before, before + 1 = 1074 := ⟨1073, rfl⟩
  have exponent : (-1074 : Int) = Int.negSucc before := by omega
  have halves := toDouble_halves (unitsOfCode code) before
  have scaled := codeOfUnits_scale (unitsOfCode code) 1 unitsPerOne unitsPerOne_pos
  rw [Nat.one_mul, codeOfUnits_unitsOfCode] at scaled
  rw [exactDecimal, exponent, ← last]
  refine halves.trans ?_
  rw [ofRatio, codeOfRatio, last, ← unitsPerOne_eq, scaled]

theorem onGrid?_toDouble (code : Nat) (leading : Int) (places : Nat) (decimal : Decimal)
    (found : onGrid? code leading places = some decimal) :
    decimal.toDouble false = .ofCode false code := by
  unfold onGrid? at found
  dsimp only at found
  split at found
  · rename_i below above
    split at found
    · cases found
      exact of_decide_eq_true below
    · cases found
      exact of_decide_eq_true above
  · rename_i below _
    cases found
    exact of_decide_eq_true below
  · rename_i _ above
    cases found
    exact of_decide_eq_true above
  · cases found

theorem shortest_toDouble (code : Nat) : (shortest code).toDouble false = .ofCode false code := by
  unfold shortest
  split
  · rename_i zero
    subst zero
    rfl
  · dsimp only
    rw [Decimal.toDouble_congr false (Decimal.normalised_sameValue _)]
    cases found : (List.range 17).findSome? (fun fewer => onGrid? code (leadingPlace code) (fewer + 1)) with
    | none => exact exactDecimal_toDouble code
    | some decimal =>
        obtain ⟨fewer, _, onGrid⟩ := List.exists_of_findSome?_eq_some found
        exact onGrid?_toDouble code _ _ decimal onGrid

theorem takeWhile_digits (digits rest : List Char) (digit : ∀ c ∈ digits, c.isDigit = true)
    (stop : ∀ c, rest.head? = some c → c.isDigit = false) :
    (digits ++ rest).takeWhile Char.isDigit = digits ∧
      (digits ++ rest).dropWhile Char.isDigit = rest := by
  rw [List.takeWhile_append_of_pos digit, List.dropWhile_append_of_pos digit]
  cases rest with
  | nil => simp
  | cons head tail =>
      have notDigit := stop head rfl
      simp [notDigit]

theorem unsignedDecimal?_pointed (whole fraction : List Char) (nonempty : whole ≠ [])
    (digit : ∀ c ∈ whole ++ fraction, c.isDigit = true) :
    unsignedDecimal? (pointed whole fraction) =
      some ⟨Nat.ofDigitChars 10 (whole ++ fraction) 0, 0 - (fraction.length : Int)⟩ := by
  have wholeDigit : ∀ c ∈ whole, c.isDigit = true :=
    fun c member => digit c (List.mem_append_left _ member)
  have fractionDigit : ∀ c ∈ fraction, c.isDigit = true :=
    fun c member => digit c (List.mem_append_right _ member)
  have someDigit : whole ++ fraction ≠ [] :=
    fun empty => nonempty (List.append_eq_nil_iff.1 empty).1
  unfold unsignedDecimal? pointed
  by_cases none : fraction = []
  · subst none
    have split := takeWhile_digits whole [] wholeDigit (by intro c head; cases head)
    rw [List.append_nil] at split someDigit
    simp only [if_pos, split, List.append_nil, if_neg someDigit]
    rfl
  · have splitWhole := takeWhile_digits whole ('.' :: fraction) wholeDigit
      (by intro c head; cases head; decide)
    have splitFraction := takeWhile_digits fraction [] fractionDigit (by intro c head; cases head)
    rw [List.append_nil] at splitFraction
    simp only [if_neg none, splitWhole, splitFraction, if_neg someDigit]
    rfl

theorem splitSign_of_digit (text : List Char) (digit : ∀ c, text.head? = some c → c.isDigit = true) :
    Text.splitSign text = (false, text) := by
  unfold Text.splitSign
  split
  · exact absurd (digit '-' rfl) (by decide)
  · exact absurd (digit '+' rfl) (by decide)
  · rfl

/-- Digits, then perhaps a point and more digits. -/
theorem text_of_positive (value : Double) (finite : value.isFinite = true)
    (positive : value.isPositive = true) :
    ∃ whole fraction, value.text = pointed whole fraction ∧ whole ≠ [] ∧
      (∀ c ∈ whole ++ fraction, c.isDigit = true) ∧
      (⟨Nat.ofDigitChars 10 (whole ++ fraction) 0, 0 - (fraction.length : Int)⟩ :
        Decimal).toDouble false = value := by
  cases value with
  | nan => cases finite
  | infinite negative => cases finite
  | finite negative code =>
      simp only [isPositive, Bool.and_eq_true, Bool.not_eq_true'] at positive
      obtain ⟨sign, _⟩ := positive
      subst sign
      obtain ⟨nonempty, digit, same⟩ := (shortest code.val).positional_spec
      refine ⟨_, _, ?_, nonempty, digit, ?_⟩
      · simp [text, Layout.text, signed, Layout.decimalText, messageLayout, positionalText]
      · rw [Decimal.toDouble_congr false same, shortest_toDouble, ofCode, dif_pos code.isLt]

theorem pointed_ne_nil (whole fraction : List Char) (nonempty : whole ≠ []) :
    pointed whole fraction ≠ [] := by
  unfold pointed
  split
  · exact nonempty
  · exact fun empty => nonempty (List.append_eq_nil_iff.1 empty).1

theorem mem_pointed (whole fraction : List Char)
    (digit : ∀ c ∈ whole ++ fraction, c.isDigit = true) (c : Char)
    (member : c ∈ pointed whole fraction) : c.isDigit = true ∨ c = '.' := by
  unfold pointed at member
  split at member
  · exact Or.inl (digit c (List.mem_append_left _ member))
  · rcases List.mem_append.1 member with inWhole | afterWhole
    · exact Or.inl (digit c (List.mem_append_left _ inWhole))
    · rcases List.mem_cons.1 afterWhole with point | inFraction
      · exact Or.inr point
      · exact Or.inl (digit c (List.mem_append_right _ inFraction))

/-- Reading the text of a positive finite number gives the number. -/
theorem ofText?_text (value : Double) (finite : value.isFinite = true)
    (positive : value.isPositive = true) : ofText? value.text = some value := by
  obtain ⟨whole, fraction, textIs, nonempty, digit, same⟩ := text_of_positive value finite positive
  have head : ∀ c, (pointed whole fraction).head? = some c → c.isDigit = true := by
    intro c first
    cases whole with
    | nil => exact absurd rfl nonempty
    | cons firstDigit others =>
        unfold pointed at first
        have atFirst : c = firstDigit := by
          split at first <;> simpa using first.symm
        rw [atFirst]
        exact digit firstDigit (List.mem_append_left _ (List.mem_cons_self ..))
  unfold ofText?
  rw [textIs, splitSign_of_digit _ head]
  simp only [unsignedDecimal?_pointed whole fraction nonempty digit, same]

end Double

end HazardStore
