import HazardStore.GroundMotion.Field
import HazardStore.Session.Basic
import HazardStore.Store.Error
/-!
The table of ruptures. The site indices of a rupture are written once, and not after a field was
stored without them: such a field covers the whole site collection by position.
-/

namespace HazardStore.Ruptures

open Dialogue

def decodeRow : Cells Statement.ruptureColumns → Except Fault RuptureRow
  | (id, magnitude, rake, tectonicRegion, fromFaultSource, sites?, createdAt, ()) => do
      let id ← required (.named "id") id
      let magnitude ← required (.named "magnitude") magnitude
      let rake ← required (.named "rake") rake
      let tectonicRegion ← required (.named "tectonic_region_type") tectonicRegion
      let fromFaultSource ← required (.named "is_from_fault_source") fromFaultSource
      let sites? ← elements? (.named "site_indices") sites?
      let createdAt ← required (.named "created_at") createdAt
      return { id, magnitude, rake, tectonicRegion, fromFaultSource, sites?, createdAt }

section Queries

variable {ε : Type} [OfFault ε]

def byId? (id : RecordId) : Dialogue ε (Option RuptureRow) :=
  first? (.ruptureById id) decodeRow

/-- Whether there was a row to delete. Event ruptures and their fields go with it. -/
def delete (id : RecordId) : Dialogue ε Bool := do
  return 0 < (← count (.deleteRupture id))

end Queries

def checkListed : Option (List SiteId) → Except StoreError Unit
  | none => .ok ()
  | some sites => (GroundMotion.checkSites sites).mapError .invalid

def create (request : NewRupture) : Dialogue StoreError RuptureRow := do
  ofExcept (checkListed request.sites?)
  first (.insertRupture request) decodeRow

/-- Null stands for no indices. -/
def decodeSites : Cells [.integers] → Except Fault (Option (List SiteId)) :=
  integers?

def decodeCount : Cells [.bigInteger] → Except Fault Int64 :=
  single

/-- The indices are written if no field was stored before. -/
def writeSites (rupture : RecordId) (sites : List SiteId) :
    Dialogue StoreError (Ending (Option RuptureRow)) := do
  let stored ← first (.countFields rupture) decodeCount
  if 0 < stored then .fail (.conflict (.fieldsStored rupture stored))
  else
    let row ← first (.updateSites rupture sites) decodeRow
    return .keep (some row)

/-- The work of the transaction: the rupture is locked, and has to be there without indices. -/
def assignSites (rupture : RecordId) (sites : List SiteId) :
    Dialogue StoreError (Ending (Option RuptureRow)) := do
  match ← first? (.lockSites rupture) decodeSites with
  | some none => writeSites rupture sites
  | _ => return .discard none

/-- Writes the site indices of a rupture. Answers nothing when there is no such rupture or it has
its indices already. -/
def setSites (rupture : RecordId) (sites : List SiteId) : Session StoreError (Option RuptureRow) :=
  match GroundMotion.checkSites sites with
  | .error violation => .fail (.invalid violation)
  | .ok () => Session.bracket (assignSites rupture sites)

end HazardStore.Ruptures
