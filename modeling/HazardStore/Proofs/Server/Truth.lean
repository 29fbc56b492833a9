/-!
Conditions over cells that may be null. Such a condition is true, false or unknown: a check of a table
lets an unknown row pass, and a query leaves it out.
-/

namespace HazardStore

/-- What a condition comes to; nothing where that is unknown. -/
abbrev Truth := Option Bool

namespace Truth

protected def not (truth : Truth) : Truth :=
  truth.map Bool.not

protected def and : Truth → Truth → Truth
  | some false, _ => some false
  | _, some false => some false
  | some true, some true => some true
  | _, _ => none

protected def or : Truth → Truth → Truth
  | some true, _ => some true
  | _, some true => some true
  | some false, some false => some false
  | _, _ => none

protected def choose (condition first second : Truth) : Truth :=
  if condition = some true then first else second

def isNull {α : Type} (cell : Option α) : Truth :=
  some cell.isNone

def isPresent {α : Type} (cell : Option α) : Truth :=
  some cell.isSome

def equal {α : Type} (same : α → α → Bool) : Option α → Option α → Truth
  | some left, some right => some (same left right)
  | _, _ => none

/-- Whether a list has a value, unknown where there is no list. An empty list has none. -/
def among {α : Type} (same : α → α → Bool) (value : α) (list? : Option (List α)) : Truth :=
  list?.map (fun list => list.any (same value))

/-- A check refuses a row where its condition is false. -/
def Admits (truth : Truth) : Prop :=
  truth ≠ some false

/-- A query takes a row where its condition is true. -/
def Selects (truth : Truth) : Prop :=
  truth = some true

instance (truth : Truth) : Decidable truth.Admits :=
  inferInstanceAs (Decidable (truth ≠ some false))

instance (truth : Truth) : Decidable truth.Selects :=
  inferInstanceAs (Decidable (truth = some true))

theorem not_known (value : Bool) : Truth.not (some value) = some (!value) :=
  rfl

theorem and_known (left right : Bool) :
    Truth.and (some left) (some right) = some (left && right) := by
  cases left <;> cases right <;> rfl

theorem or_known (left right : Bool) :
    Truth.or (some left) (some right) = some (left || right) := by
  cases left <;> cases right <;> rfl

theorem admits_known (value : Bool) : Admits (some value) ↔ value = true := by
  cases value <;> decide

theorem selects_known (value : Bool) : Selects (some value) ↔ value = true := by
  cases value <;> decide

theorem selects_and (left right : Truth) :
    (left.and right).Selects ↔ left.Selects ∧ right.Selects := by
  rcases left with _ | left <;> rcases right with _ | right
  · decide
  · cases right <;> decide
  · cases left <;> decide
  · cases left <;> cases right <;> decide

theorem selects_or (left right : Truth) :
    (left.or right).Selects ↔ left.Selects ∨ right.Selects := by
  rcases left with _ | left <;> rcases right with _ | right
  · decide
  · cases right <;> decide
  · cases left <;> decide
  · cases left <;> cases right <;> decide

end Truth

end HazardStore
