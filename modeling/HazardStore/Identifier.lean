/-!
Identifiers: rows are numbered with 64 signed bits, sites and event sets with 32.
-/

namespace HazardStore

abbrev RecordId := Int64

abbrev SiteId := Int32

end HazardStore
