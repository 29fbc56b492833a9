import HazardStore.GroundMotion.Field
/-!
Values of several sites brought onto a common list of ruptures: the ascending union of the ruptures
that any of the sites has a value for.
-/

namespace HazardStore.GroundMotion

abbrev SiteValues := List (RecordId × Double)

structure AlignedField where
  ruptures : List RecordId
  /-- The sites in the order in which they were asked for, each with one value per rupture. -/
  rows : List (SiteId × List Double)
deriving DecidableEq

/-- A place for one more rupture in an ascending list; one that is there already stays single. -/
def insertAscending (rupture : RecordId) : List RecordId → List RecordId
  | [] => [rupture]
  | head :: tail =>
      if rupture < head then rupture :: head :: tail
      else if rupture = head then head :: tail
      else head :: insertAscending rupture tail

def ascending (ruptures : List RecordId) : List RecordId :=
  ruptures.foldr insertAscending []

def lastValue? (values : SiteValues) (rupture : RecordId) : Option Double :=
  values.reverse.lookup rupture

/-- One value per rupture, zero where the site has none. -/
def alignedRow (ruptures : List RecordId) (values : SiteValues) : List Double :=
  ruptures.map (fun rupture => (lastValue? values rupture).getD .zero)

def align (perSite : List (SiteId × SiteValues)) : AlignedField :=
  let ruptures := ascending (perSite.flatMap (fun entry => entry.2.map Prod.fst))
  { ruptures := ruptures
    rows := perSite.map (fun entry => (entry.1, alignedRow ruptures entry.2)) }

def AlignedField.isEmpty (aligned : AlignedField) : Bool :=
  aligned.ruptures.isEmpty

end HazardStore.GroundMotion
