import HazardStore.Session.Dialogue
/-!
The table of event ruptures. Deleting one takes its fields with it.
-/

namespace HazardStore.Events

open Dialogue

def decodeRow : Cells Statement.eventColumns → Except Fault EventRow
  | (id, rupture, eventSet, tag, seed, createdAt, ()) => do
      let id ← required (.named "id") id
      let rupture ← required (.named "rupture_id") rupture
      let eventSet ← required (.named "ses_id") eventSet
      let tag ← required (.named "tag") tag
      let seed ← required (.named "seed") seed
      let createdAt ← required (.named "created_at") createdAt
      return { id, rupture, eventSet, tag, seed, createdAt }

variable {ε : Type} [OfFault ε]

def create (request : NewEvent) : Dialogue ε EventRow :=
  first (.insertEvent request) decodeRow

def byId? (id : RecordId) : Dialogue ε (Option EventRow) :=
  first? (.eventById id) decodeRow

def delete (id : RecordId) : Dialogue ε Bool := do
  return 0 < (← count (.deleteEvent id))

end HazardStore.Events
