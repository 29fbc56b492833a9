/-!
Unsigned numerals in ASCII digits, with and without an upper bound, and signed exponents.
-/

namespace HazardStore.Text

/-- One or more digits and nothing else; leading zeros are allowed. -/
def numeral? (text : List Char) : Option Nat :=
  if text ≠ [] ∧ text.all Char.isDigit then some (Nat.ofDigitChars 10 text 0) else none

/-- A numeral with an optional plus sign in front whose value stays below the bound. -/
def boundedNumeral? (bound : Nat) (text : List Char) : Option Nat :=
  let digits := match text with
    | '+' :: rest => rest
    | _ => text
  (numeral? digits).filter (fun value => decide (value < bound))

/-- A sign, which is positive when it is not written, and what follows it. -/
def splitSign : List Char → Bool × List Char
  | '-' :: rest => (true, rest)
  | '+' :: rest => (false, rest)
  | text => (false, text)

def signedNumeral? (text : List Char) : Option Int :=
  let (negative, digits) := splitSign text
  (numeral? digits).map (fun value => if negative then -(value : Int) else value)

end HazardStore.Text
