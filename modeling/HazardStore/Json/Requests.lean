import HazardStore.Json.Fields
import HazardStore.Record
/-!
Requests as JSON texts.
-/

namespace HazardStore

open Json

namespace NewContainer

def fields : List FieldSpec :=
  [⟨"display_name", .text⟩]

def ofJson (text : String) : Except ReadError NewContainer := do
  let (displayName, ()) ← Reader.whole (Values.read fields) text
  return { displayName }

end NewContainer

namespace NewRupture

def fields : List FieldSpec :=
  [⟨"magnitude", .double⟩, ⟨"rake", .double⟩, ⟨"tectonic_region_type", .text⟩,
    ⟨"is_from_fault_source", .optional .boolean⟩, ⟨"site_indices", .optional .integers⟩]

def ofJson (text : String) : Except ReadError NewRupture := do
  let (magnitude, rake, tectonicRegion, fromFaultSource?, sites?, ()) ←
    Reader.whole (Values.read fields) text
  return { magnitude, rake, tectonicRegion, fromFaultSource?, sites? }

end NewRupture

namespace NewEvent

def fields : List FieldSpec :=
  [⟨"rupture_id", .bigInteger⟩, ⟨"ses_id", .integer⟩, ⟨"tag", .text⟩, ⟨"seed", .integer⟩]

def ofJson (text : String) : Except ReadError NewEvent := do
  let (rupture, eventSet, tag, seed, ()) ← Reader.whole (Values.read fields) text
  return { rupture, eventSet, tag, seed }

end NewEvent

namespace NewField

def fields : List FieldSpec :=
  [⟨"rupture_id", .bigInteger⟩, ⟨"gmf_id", .bigInteger⟩, ⟨"imt_id", .bigInteger⟩,
    ⟨"ground_motion_field", .doubles⟩]

def ofJson (text : String) : Except ReadError NewField := do
  let (event, container, measure, values, ()) ← Reader.whole (Values.read fields) text
  return { event, container, measure, values }

end NewField

end HazardStore
