import HazardStore.Session.Basic
/-!
Seeding: every reference measure that is absent is inserted, all in one transaction.
-/

namespace HazardStore.Seeding

open Dialogue

variable {ε : Type} [OfFault ε]

/-- Inserts one measure after the other and counts the rows that were really added. -/
def insertAll : List ReferenceMeasure → Dialogue ε Nat
  | [] => return 0
  | reference :: others => do
      let added ← count (.seedMeasure reference)
      let more ← insertAll others
      return added + more

/-- How many reference measures were added; none on a store that has them all. -/
def seed : Session ε Nat := do
  let inserted ← Session.bracket (do return .keep (← insertAll ReferenceMeasure.seeds))
  Session.note (.measuresSeeded inserted ReferenceMeasure.seeds.length) (.done inserted)

end HazardStore.Seeding
