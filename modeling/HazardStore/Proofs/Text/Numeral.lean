import HazardStore.Text.Numeral
import Mathlib.Data.List.Induction
/-!
What numerals denote. The grammar builds a number from its leading digits and its last one, apart
from the reader that folds over the text; the reader accepts exactly the texts of the grammar, with
the number that the grammar gives them.
-/

namespace HazardStore.Text

structure IsDigit (c : Char) (value : Nat) : Prop where
  single : value < 10
  code : c.toNat = '0'.toNat + value

/-- Digits in a row and the number that they denote. -/
inductive Digits : List Char → Nat → Prop where
  | one (c : Char) (value : Nat) (digit : IsDigit c value) : Digits [c] value
  | more (text : List Char) (number : Nat) (c : Char) (value : Nat) (before : Digits text number)
      (digit : IsDigit c value) : Digits (text ++ [c]) (10 * number + value)

/-- Digits that may have a plus sign in front. -/
inductive Numeral : List Char → Nat → Prop where
  | plain (text : List Char) (number : Nat) (digits : Digits text number) : Numeral text number
  | plus (text : List Char) (number : Nat) (digits : Digits text number) :
      Numeral ('+' :: text) number

variable {text : List Char} {number : Nat}

theorem IsDigit.isDigit {c : Char} {value : Nat} (digit : IsDigit c value) : c.isDigit = true := by
  obtain ⟨single, code⟩ := digit
  change c.toNat = 48 + value at code
  rw [Char.isDigit_iff_toNat]
  change 48 ≤ c.toNat ∧ c.toNat ≤ 57
  omega

theorem isDigit_of_isDigit {c : Char} (digit : c.isDigit = true) :
    IsDigit c (c.toNat - '0'.toNat) := by
  obtain ⟨least, most⟩ := Char.isDigit_iff_toNat.1 digit
  change 48 ≤ c.toNat at least
  change c.toNat ≤ 57 at most
  constructor
  · change c.toNat - 48 < 10
    omega
  · change c.toNat = 48 + (c.toNat - 48)
    omega

theorem Digits.read (digits : Digits text number) :
    text ≠ [] ∧ text.all Char.isDigit = true ∧ Nat.ofDigitChars 10 text 0 = number := by
  induction digits with
  | one c value digit =>
      refine ⟨by simp, by simp [digit.isDigit], ?_⟩
      change 10 * 0 + (c.toNat - '0'.toNat) = value
      rw [digit.code]
      omega
  | more text number c value before digit ih =>
      obtain ⟨_, allDigits, denoted⟩ := ih
      refine ⟨by simp, by simp [allDigits, digit.isDigit], ?_⟩
      rw [Nat.ofDigitChars_append, denoted]
      change 10 * number + (c.toNat - '0'.toNat) = 10 * number + value
      rw [digit.code]
      omega

theorem digits_of_all (nonempty : text ≠ []) (allDigits : text.all Char.isDigit = true) :
    Digits text (Nat.ofDigitChars 10 text 0) := by
  -- from the end of the text, where the grammar adds its digits
  induction text using List.reverseRecOn with
  | nil => exact absurd rfl nonempty
  | append_singleton before c ih =>
      rw [List.all_append, Bool.and_eq_true, List.all_cons, Bool.and_eq_true] at allDigits
      obtain ⟨beforeDigits, digit, _⟩ := allDigits
      by_cases alone : before = []
      · subst alone
        have value : Nat.ofDigitChars 10 ([] ++ [c]) 0 = c.toNat - '0'.toNat := by
          change 10 * 0 + (c.toNat - '0'.toNat) = _
          omega
        rw [value]
        exact .one c _ (isDigit_of_isDigit digit)
      · rw [Nat.ofDigitChars_append]
        exact .more before _ c _ (ih alone beforeDigits) (isDigit_of_isDigit digit)

theorem numeral?_eq_some_iff : numeral? text = some number ↔ Digits text number := by
  unfold numeral?
  constructor
  · intro read
    split at read
    · rename_i given
      cases read
      exact digits_of_all given.1 given.2
    · cases read
  · intro digits
    obtain ⟨nonempty, allDigits, denoted⟩ := digits.read
    rw [if_pos ⟨nonempty, allDigits⟩, denoted]

theorem Digits.not_plus (digits : Digits ('+' :: text) number) : False := by
  obtain ⟨_, allDigits, _⟩ := digits.read
  rw [List.all_cons] at allDigits
  cases allDigits

theorem numeral_plus_iff : Numeral ('+' :: text) number ↔ Digits text number := by
  constructor
  · intro numeral
    cases numeral with
    | plain _ _ digits => exact digits.not_plus.elim
    | plus _ _ digits => exact digits
  · exact .plus text number

theorem numeral_unsigned_iff (unsigned : ∀ rest, text ≠ '+' :: rest) :
    Numeral text number ↔ Digits text number := by
  constructor
  · intro numeral
    cases numeral with
    | plain _ _ digits => exact digits
    | plus rest _ _ => exact absurd rfl (unsigned rest)
  · exact .plain text number

theorem boundedNumeral?_eq_some_iff (bound : Nat) :
    boundedNumeral? bound text = some number ↔ Numeral text number ∧ number < bound := by
  unfold boundedNumeral?
  dsimp only
  rw [Option.filter_eq_some_iff, decide_eq_true_iff, numeral?_eq_some_iff]
  split
  · rw [numeral_plus_iff]
  · rename_i unsigned
    rw [numeral_unsigned_iff unsigned]

theorem Numeral.unique {other : Nat} (one : Numeral text number) (two : Numeral text other) :
    number = other := by
  have bound := Nat.lt_succ_of_le (Nat.le_max_left number other)
  have otherBound := Nat.lt_succ_of_le (Nat.le_max_right number other)
  have first := (boundedNumeral?_eq_some_iff _).2 ⟨one, bound⟩
  have second := (boundedNumeral?_eq_some_iff _).2 ⟨two, otherBound⟩
  exact Option.some.inj (first.symm.trans second)

end HazardStore.Text
