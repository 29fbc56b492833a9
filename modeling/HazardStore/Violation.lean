import HazardStore.Double.Printer
import HazardStore.Identifier
import HazardStore.Measure.Kind
/-!
The rules that domain input can break, each as a cause that carries what its message names, and the
one function that words them.
-/

namespace HazardStore

inductive SpectralComponent where
  | period
  | damping
deriving DecidableEq

inductive Violation where
  | unknownKind (code : String)
  /-- A spectral measure was asked for by its kind alone. -/
  | componentsRequired
  | notPositive (component : SpectralComponent) (value : Double)
  | componentAbsent (code : String)
  | componentPresent (code : String)
  /-- What stands between the parentheses is not one or two numbers. -/
  | unreadableParameters (text : String)
  | periodOmitted
  | emptyField
  | valueNotFinite (value : Double)
  | lengthMismatch (values sites : Nat)
  | negativeSite (site : SiteId)
  | repeatedSites
deriving DecidableEq

def SpectralComponent.name : SpectralComponent → String
  | .period => "SA period"
  | .damping => "SA damping"

namespace Violation

def quoted (value : Double) : String :=
  String.ofList value.text

/-- What is wrong, without the heading that every message has. -/
def reason : Violation → String
  | .unknownKind code =>
      "Unknown intensity measure type '" ++ code ++ "'. Valid types: " ++
        String.intercalate ", " (MeasureKind.all.map MeasureKind.code)
  | .componentsRequired => "SA requires a period and a damping"
  | .notPositive component value =>
      component.name ++ " must be a positive finite number (got " ++ quoted value ++ ")"
  | .componentAbsent code => code ++ " requires both sa_period and sa_damping"
  | .componentPresent code => code ++ " must not carry sa_period or sa_damping"
  | .unreadableParameters text => "Invalid SA parameters in '" ++ text ++ "'"
  | .periodOmitted => "SA requires a period, e.g. SA(0.1)"
  | .emptyField => "Ground motion field must contain at least one value"
  | .valueNotFinite value => "Ground motion values must be finite (got " ++ quoted value ++ ")"
  | .lengthMismatch values sites =>
      "Ground motion field has " ++ toString values ++ " values but the rupture affects " ++
        toString sites ++ " sites"
  | .negativeSite site => "Site index must not be negative (got " ++ toString site ++ ")"
  | .repeatedSites => "Rupture site indices contain duplicates"

def message (violation : Violation) : String :=
  "Validation failed: " ++ violation.reason

end Violation

end HazardStore
