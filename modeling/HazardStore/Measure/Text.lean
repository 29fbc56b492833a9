import HazardStore.Double.Reader
import HazardStore.Measure.Basic
import HazardStore.Text.Blank
/-!
Measures in writing: a code such as `PGA`, or `SA(period)` and `SA(period, damping)`. The damping is
written only when it differs from the default, which a text without one is read with.
-/

namespace HazardStore.Measure

open Text

/-- Percent of critical damping that a spectral text without a damping stands for. -/
def defaultDamping : Double :=
  (⟨5, 0⟩ : Decimal).toDouble false

def isDefaultDamping (damping : Double) : Bool :=
  damping.sameNumber defaultDamping

def characters : Measure → List Char
  | .simple kind _ => kind.code.toList
  | .spectral period damping =>
      let parameters :=
        if isDefaultDamping damping.value then period.value.text
        else period.value.text ++ ',' :: ' ' :: damping.value.text
      MeasureKind.spectralAcceleration.code.toList ++ '(' :: parameters ++ [')']

def text (measure : Measure) : String :=
  String.ofList measure.characters

def parenthesised? : List Char → Option (List Char)
  | '(' :: rest => if rest.getLast? = some ')' then some rest.dropLast else none
  | _ => none

def splitAtComma (text : List Char) : List Char × Option (List Char) :=
  match text.dropWhile (· ≠ ',') with
  | [] => (text, none)
  | _ :: after => (text.takeWhile (· ≠ ','), some after)

/-- One number among the parameters of the spectral text `name`; blanks around it are ignored. -/
def parameter (name text : List Char) : Except Violation Double :=
  match Double.ofText? (trim text) with
  | some value => .ok value
  | none => .error (.unreadableParameters (String.ofList name))

/-- Both numbers are read before either is judged. -/
def ofParameterText (name inner : List Char) : Except Violation Measure := do
  match splitAtComma inner with
  | (first, some second) =>
      let period ← parameter name first
      let damping ← parameter name second
      ofParameters period damping
  | (only, none) =>
      let period ← parameter name only
      ofParameters period defaultDamping

def ofCodeText (name : List Char) : Except Violation Measure :=
  match MeasureKind.ofCode? (String.ofList name) with
  | some kind => ofKind kind
  | none => .error (.unknownKind (String.ofList name))

/-- The measure that a text names; blanks around it are ignored. -/
def ofText (text : String) : Except Violation Measure :=
  let name := trim text.toList
  match name with
  | ['S', 'A'] => .error .periodOmitted
  | 'S' :: 'A' :: rest =>
      match parenthesised? rest with
      | some inner => ofParameterText name inner
      | none => ofCodeText name
  | _ => ofCodeText name

end HazardStore.Measure
