import HazardStore.Session.Dialogue
/-!
The table of field containers. Deleting a container takes its fields with it.
-/

namespace HazardStore.Containers

open Dialogue

def decodeRow : Cells Statement.containerColumns → Except Fault ContainerRow
  | (id, displayName, createdAt, ()) => do
      let id ← required (.named "id") id
      let displayName ← required (.named "display_name") displayName
      let createdAt ← required (.named "created_at") createdAt
      return { id, displayName, createdAt }

variable {ε : Type} [OfFault ε]

def create (request : NewContainer) : Dialogue ε ContainerRow :=
  first (.insertContainer request) decodeRow

def byId? (id : RecordId) : Dialogue ε (Option ContainerRow) :=
  first? (.containerById id) decodeRow

def delete (id : RecordId) : Dialogue ε Bool := do
  return 0 < (← count (.deleteContainer id))

end HazardStore.Containers
