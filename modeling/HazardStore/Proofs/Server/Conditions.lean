import HazardStore.Proofs.Measure.Table
import HazardStore.Proofs.Server.Truth
/-!
The conditions that stand in the texts of the statements: how they are spelled, and what they come to
for a row and the parameters of a statement. A condition over null cells may be unknown.
-/

namespace HazardStore

namespace Parameter

/-- The equality of two values, unknown where one of them is null. -/
def equal : Parameter → Parameter → Truth
  | .null, _ => none
  | _, .null => none
  | .double left, .double right => some (left.sameStored right)
  | left, right => some (decide (left = right))

def notDistinct (left right : Parameter) : Truth :=
  if left = .null ∨ right = .null then some (decide (left = right)) else left.equal right

def among : Parameter → Parameter → Truth
  | .integer value, .integers values => some (values.contains value)
  | _, _ => none

def filled : Parameter → Parameter → Parameter
  | .null, absent => absent
  | value, _ => value

end Parameter

abbrev Row := List (String × Parameter)

inductive Operand where
  | column (name : String)
  | parameter (place : Nat)
  | literal (text : String)
  /-- A column with minus one in place of null. -/
  | filled (name : String)
deriving DecidableEq

inductive Condition where
  | equal (left right : Operand)
  | differs (left right : Operand)
  | notDistinct (left right : Operand)
  | isNull (operand : Operand)
  | isPresent (operand : Operand)
  | isAmong (operand list : Operand)
  | both (left right : Condition)
  | either (left right : Condition)
  | choice (condition first second : Condition)
deriving DecidableEq

namespace Operand

def tokens : Operand → List String
  | .column name => [name]
  | .parameter place => [String.ofList ('$' :: Nat.toDigits 10 place)]
  | .literal text => ["'" ++ text ++ "'"]
  | .filled name => ["COALESCE", "(", name, ",", "-1", ")"]

def value (row : Row) (parameters : List Parameter) : Operand → Parameter
  | .column name => (row.lookup name).getD .null
  | .parameter place => parameters.getD (place - 1) .null
  | .literal text => .text text
  | .filled name =>
      ((row.lookup name).getD .null).filled (.double ReferenceMeasure.absentKey)

end Operand

namespace Condition

def isBoth : Condition → Bool
  | .both _ _ => true
  | _ => false

def isEither : Condition → Bool
  | .either _ _ => true
  | _ => false

/-- Parentheses stand where both connectives meet. -/
def enclosed (mixed : Bool) (tokens : List String) : List String :=
  if mixed then "(" :: tokens ++ [")"] else tokens

def tokens : Condition → List String
  | .equal left right => left.tokens ++ "=" :: right.tokens
  | .differs left right => left.tokens ++ "<>" :: right.tokens
  | .notDistinct left right => left.tokens ++ ["IS", "NOT", "DISTINCT", "FROM"] ++ right.tokens
  | .isNull operand => operand.tokens ++ ["IS", "NULL"]
  | .isPresent operand => operand.tokens ++ ["IS", "NOT", "NULL"]
  | .isAmong operand list => operand.tokens ++ ["=", "ANY", "("] ++ list.tokens ++ [")"]
  | .both left right =>
      enclosed left.isEither left.tokens ++ "AND" :: enclosed right.isEither right.tokens
  | .either left right =>
      enclosed left.isBoth left.tokens ++ "OR" :: enclosed right.isBoth right.tokens
  | .choice condition first second =>
      ["CASE", "WHEN"] ++ condition.tokens ++ "THEN" :: first.tokens ++ "ELSE" :: second.tokens ++
        ["END"]

def value (row : Row) (parameters : List Parameter) : Condition → Truth
  | .equal left right => (left.value row parameters).equal (right.value row parameters)
  | .differs left right => ((left.value row parameters).equal (right.value row parameters)).not
  | .notDistinct left right =>
      (left.value row parameters).notDistinct (right.value row parameters)
  | .isNull operand => some (decide (operand.value row parameters = .null))
  | .isPresent operand => some (decide (operand.value row parameters ≠ .null))
  | .isAmong operand list => (operand.value row parameters).among (list.value row parameters)
  | .both left right => (left.value row parameters).and (right.value row parameters)
  | .either left right => (left.value row parameters).or (right.value row parameters)
  | .choice condition first second =>
      Truth.choose (condition.value row parameters) (first.value row parameters)
        (second.value row parameters)

end Condition

/-- The words of a text, with signs of punctuation as words of their own. -/
def tokens (text : List Char) : List String :=
  let spaced := text.flatMap (fun c => if c ∈ ['(', ')', ','] then [' ', c, ' '] else [c])
  ((spaced.splitOnP Char.isWhitespace).filter (fun word => !word.isEmpty)).map String.ofList

/-- The beginning of a condition up to the next clause, or to a parenthesis that was open before. -/
def clause : Nat → List String → List String
  | _, [] => []
  | depth, word :: others =>
      if word ∈ ["JOIN", "WHERE", "ORDER", "FOR", "RETURNING"] then []
      else if word = "(" then word :: clause (depth + 1) others
      else if word = ")" then
        if depth = 0 then [] else word :: clause (depth - 1) others
      else word :: clause depth others

def clauses : List String → List (List String)
  | [] => []
  | word :: others =>
      if word = "ON" ∨ word = "WHERE" then clause 0 others :: clauses others else clauses others

namespace Statement

open Condition Operand

def identified : Condition :=
  equal (column "id") (parameter 1)

def placed : Condition :=
  equal (column "pr.id") (column "sr.rupture_id")

def covered : Condition :=
  equal (column "sr.id") (column "gr.rupture_id")

def sought : Condition :=
  both (both (equal (column "im_type") (parameter 1))
    (notDistinct (column "sa_period") (parameter 2)))
    (notDistinct (column "sa_damping") (parameter 3))

def listed : Condition :=
  either (isNull (column "pr.site_indices")) (isAmong (parameter 3) (column "pr.site_indices"))

def conditions : Statement → List Condition
  | .measureById _ => [identified]
  | .measureByComponents _ _ _ => [sought]
  | .containerById _ => [identified]
  | .deleteContainer _ => [identified]
  | .ruptureById _ => [identified]
  | .lockSites _ => [identified]
  | .countFields _ => [covered, equal (column "sr.rupture_id") (parameter 1)]
  | .updateSites _ _ => [identified]
  | .deleteRupture _ => [identified]
  | .eventById _ => [identified]
  | .deleteEvent _ => [identified]
  | .shareSites _ => [placed, equal (column "sr.id") (parameter 1)]
  | .fieldById _ => [identified]
  | .fieldsOfContainer _ => [equal (column "gmf_id") (parameter 1)]
  | .fieldsOfEvent _ => [equal (column "rupture_id") (parameter 1)]
  | .fieldsAtSite _ _ _ =>
      [covered, placed,
        both (both (equal (column "gr.gmf_id") (parameter 1))
          (equal (column "gr.imt_id") (parameter 2))) listed]
  | .presenceViolations =>
      [choice (equal (column "im_type") (literal "SA"))
        (either (isNull (column "sa_period")) (isNull (column "sa_damping")))
        (either (isPresent (column "sa_period")) (isPresent (column "sa_damping")))]
  | .referenceExists _ => [sought]
  | _ => []

theorem clauses_text (statement : Statement) (asks : statement.conditions ≠ []) :
    clauses (tokens statement.text.toList) = statement.conditions.map Condition.tokens := by
  cases statement <;> first
    | exact absurd rfl asks
    | delta text conditions
      dsimp only [selectById, deleteById, measureNames, containerNames, ruptureNames, eventNames,
        fieldNames, sameComponents]
      repeat rewrite [String.toList_append]
      repeat rewrite [String.toList_ofList]
      decide +kernel

def Finds (statement : Statement) (row : Row) : Prop :=
  ∀ condition ∈ statement.conditions, (condition.value row statement.parameters).Selects

end Statement

end HazardStore
