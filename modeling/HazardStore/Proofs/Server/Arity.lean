import HazardStore.Proofs.Server.Conditions
/-!
What goes into a text and what comes out of it, by number: a statement brings a parameter for every
place of its text, and its rows have a cell for every part that the text selects or returns.
-/

namespace HazardStore

/-- The numbers of the places in a text; none has two digits. -/
def places : List Char → List Nat
  | [] => []
  | '$' :: c :: others =>
      if c.isDigit then (c.toNat - '0'.toNat) :: places others else places (c :: others)
  | _ :: others => places others

/-- The parts of a list that ends before its tables, or with the text. -/
def parts : Nat → List String → Nat
  | _, [] => 1
  | depth, word :: others =>
      if word = "(" then parts (depth + 1) others
      else if word = ")" then parts (depth - 1) others
      else if depth = 0 ∧ word = "," then parts depth others + 1
      else if depth = 0 ∧ word = "FROM" then 1
      else parts depth others

def width : List String → Nat
  | "SELECT" :: others => parts 0 others
  | "RETURNING" :: others => parts 0 others
  | _ :: others => width others
  | [] => 0

namespace Statement

theorem places_text (statement : Statement)
    (unscripted : ∀ migration, statement ≠ .applyMigration migration) :
    (∀ place ∈ places statement.text.toList, 1 ≤ place ∧ place ≤ statement.parameters.length) ∧
      ∀ place ∈ List.range' 1 statement.parameters.length,
        place ∈ places statement.text.toList := by
  cases statement
  case applyMigration migration => exact absurd rfl (unscripted migration)
  all_goals
    delta text parameters
    dsimp only [selectById, deleteById, measureNames, containerNames, ruptureNames, eventNames,
      fieldNames, sameComponents, insertMeasureText, List.length_cons, List.length_nil]
    repeat rewrite [String.toList_append]
    repeat rewrite [String.toList_ofList]
    decide +kernel

/-- Only the answer to a ping is not looked at. -/
theorem width_text (statement : Statement) (looked : statement ≠ .ping)
    (unscripted : ∀ migration, statement ≠ .applyMigration migration) :
    width (tokens statement.text.toList) = statement.columns.length := by
  cases statement
  case ping => exact absurd rfl looked
  case applyMigration migration => exact absurd rfl (unscripted migration)
  all_goals
    delta text columns
    dsimp only [selectById, deleteById, measureNames, containerNames, ruptureNames, eventNames,
      fieldNames, sameComponents, insertMeasureText]
    repeat rewrite [String.toList_append]
    repeat rewrite [String.toList_ofList]
    decide +kernel

end Statement

end HazardStore
