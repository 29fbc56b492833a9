import HazardStore.GroundMotion.Alignment
import HazardStore.Session.Basic
import HazardStore.Store.Error
/-!
The table of ground motion fields: storing a field against the sites of its rupture, and collecting
the values of a site over all event ruptures.
-/

namespace HazardStore.Fields

open Dialogue GroundMotion

def decodeRow : Cells Statement.fieldColumns → Except Fault FieldRow
  | (id, event, container, measure, values, ()) => do
      let id ← required (.named "id") id
      let event ← required (.named "rupture_id") event
      let container ← required (.named "gmf_id") container
      let measure ← required (.named "imt_id") measure
      let values ← required (.named "ground_motion_field") values
      let values ← elements (.named "ground_motion_field") values
      return { id, event, container, measure, values }

def decodeSites : Cells [.integers] → Except Fault (Option (List SiteId)) :=
  integers?

/-- The work of the transaction: the site indices of the rupture are held until the field, which
has to fit them, is stored. An event rupture that is not there has no indices; the insertion
refuses it. -/
def store (request : NewField) : Dialogue StoreError (Ending FieldRow) := do
  let sites? ← first? (.shareSites request.event) decodeSites
  ofExcept ((checkField sites?.join request.values).mapError .invalid)
  let row ← first (.insertField request) decodeRow
  return .keep row

def create (request : NewField) : Session StoreError FieldRow :=
  Session.bracket (store request)

/-- What a join of fields and ruptures says about one site. -/
structure FieldAtSite where
  event : RecordId
  values : List Double
  sites? : Option (List SiteId)
deriving DecidableEq

def decodeFieldAtSite : Cells [.bigInteger, .doubles, .integers] → Except Fault FieldAtSite
  | (event, values, sites?, ()) => do
      let event ← required (.numbered 0) event
      let values ← required (.numbered 1) values
      let values ← elements (.numbered 1) values
      let sites? ← elements? (.numbered 2) sites?
      return { event, values, sites? }

/-- The value that a field has for a site, with the event rupture it belongs to. -/
def FieldAtSite.valueAt? (site : SiteId) (field : FieldAtSite) : Option (RecordId × Double) :=
  (GroundMotion.valueAt? field.sites? field.values site).map (fun value => (field.event, value))

section Queries

variable {ε : Type} [OfFault ε]

def byId? (id : RecordId) : Dialogue ε (Option FieldRow) :=
  first? (.fieldById id) decodeRow

def inContainer (container : RecordId) : Dialogue ε (List FieldRow) :=
  all (.fieldsOfContainer container) decodeRow

def ofEvent (event : RecordId) : Dialogue ε (List FieldRow) :=
  all (.fieldsOfEvent event) decodeRow

/-- The values of one site in a container for one measure, in the order of the rows that have one.
A site without any is noted. -/
def valuesAtSite (container measure : RecordId) (site : SiteId) : Dialogue ε SiteValues := do
  let fields ← all (.fieldsAtSite container measure site) decodeFieldAtSite
  let values := fields.filterMap (FieldAtSite.valueAt? site)
  if values.isEmpty then log (.noValuesAtSite container measure site)
  return values

/-- Site by site, in the order given; the first failure ends the collection. -/
def collect (container measure : RecordId) : List SiteId → Dialogue ε (List (SiteId × SiteValues))
  | [] => return []
  | site :: sites => do
      let values ← valuesAtSite container measure site
      let others ← collect container measure sites
      return (site, values) :: others

def valuesAtSites (container measure : RecordId) (sites : List SiteId) :
    Dialogue ε AlignedField := do
  return align (← collect container measure sites)

end Queries

end HazardStore.Fields
