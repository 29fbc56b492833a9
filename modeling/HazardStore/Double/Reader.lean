import HazardStore.Decimal
import HazardStore.Text.Numeral
/-!
Doubles read from text: an optional sign, then digits with an optional point and an optional
exponent, or one of the words for infinity and not-a-number in any case. The whole text has to be
used; the value is the nearest double, so a large exponent gives infinity and a small one zero.
-/

namespace HazardStore.Double

open Text

/-- The letters that decide a word, in lower case; only ASCII letters have a lower case here. -/
def lowerCase (text : List Char) : List Char :=
  text.map Char.toLower

def exponent? : List Char → Option Int
  | [] => some 0
  | mark :: rest => if mark = 'e' ∨ mark = 'E' then signedNumeral? rest else none

/-- Digits with an optional point, at least one of them, then an optional exponent. -/
def unsignedDecimal? (text : List Char) : Option Decimal :=
  let whole := text.takeWhile Char.isDigit
  let afterWhole := text.dropWhile Char.isDigit
  let (fraction, afterFraction) := match afterWhole with
    | '.' :: rest => (rest.takeWhile Char.isDigit, rest.dropWhile Char.isDigit)
    | _ => ([], afterWhole)
  if whole ++ fraction = [] then none
  else (exponent? afterFraction).map (fun exponent =>
    ⟨Nat.ofDigitChars 10 (whole ++ fraction) 0, exponent - fraction.length⟩)

def ofText? (text : List Char) : Option Double :=
  let (negative, body) := splitSign text
  match unsignedDecimal? body with
  | some decimal => some (decimal.toDouble negative)
  | none =>
      let word := lowerCase body
      if word = ['n', 'a', 'n'] then some .nan
      else if word = ['i', 'n', 'f'] ∨ word = ['i', 'n', 'f', 'i', 'n', 'i', 't', 'y'] then
        some (.infinite negative)
      else none

end HazardStore.Double
