import HazardStore.Identifier
import HazardStore.Violation
/-!
Ground motion fields: one value per affected site. Where a rupture lists its sites the values stand
in the order of that list; where it does not, the field covers the whole site collection by
position.
-/

namespace HazardStore

namespace GroundMotion

/-- Where the value of a site stands in a field. A negative site has no position of its own. -/
def position? (sites? : Option (List SiteId)) (site : SiteId) : Option Nat :=
  match sites? with
  | some sites => sites.idxOf? site
  | none => if 0 ≤ site then some site.toNatClampNeg else none

def valueAt? (sites? : Option (List SiteId)) (field : List Double) (site : SiteId) :
    Option Double := do
  let position ← position? sites? site
  field[position]?

/-- Site indices are non-negative and distinct; the first negative one is reported before repeats.
-/
def checkSites (sites : List SiteId) : Except Violation Unit :=
  match sites.find? (fun site => decide (site < 0)) with
  | some negative => .error (.negativeSite negative)
  | none => if sites.Nodup then .ok () else .error .repeatedSites

/-- A field holds at least one value, only finite values, and one value for each listed site. -/
def checkField (sites? : Option (List SiteId)) (field : List Double) : Except Violation Unit :=
  if field = [] then .error .emptyField
  else match field.find? (fun value => !value.isFinite) with
    | some bad => .error (.valueNotFinite bad)
    | none =>
        match sites? with
        | none => .ok ()
        | some sites =>
            if sites.length = field.length then checkSites sites
            else .error (.lengthMismatch field.length sites.length)

end GroundMotion

end HazardStore
