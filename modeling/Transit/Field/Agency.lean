import Transit.Gateway.Resolve
set_option autoImplicit false

/-!
Fields of agencies and of operators.
-/

namespace Transit

namespace Agency

def cursor (a : Agency) : Cursor := ⟨a.feedVersionId, a.id⟩

def routes (a : Agency) (limit : Option Int) (filter : Option RouteFilter) : Resolve (List Route) :=
  Resolve.rows .routesByAgency a.id "routes" limit filter

def feedVersion (a : Agency) : Resolve (Option FeedVersion) :=
  Resolve.row .feedVersion a.feedVersionId "feed_version"

def places (a : Agency) (limit : Option Int) (filter : Option AgencyPlaceFilter) :
    Resolve (List AgencyPlace) :=
  Resolve.rows .agencyPlacesByAgency a.id "places" limit filter

def operator (a : Agency) : Resolve (Option Operator) :=
  Resolve.row .agencyOperator a.id "operator"

def censusGeographies (a : Agency) (limit : Option Int) (filter : Option CensusGeographyFilter) :
    Resolve (List CensusGeography) :=
  Resolve.rows .censusGeographiesByEntity (.agency, a.id) "census_geographies" limit filter

def alerts (a : Agency) (active : Option Bool) (limit : Option Int) : Resolve (List Alert) :=
  Resolve.alerts a.feedVersionId active limit (Alert.namesAgency a.agencyId)

end Agency

namespace Operator

/-- Operators belong to no feed version. -/
def cursor (o : Operator) : Cursor := ⟨0, o.id⟩

/-- The agencies that carry the operator's onestop id. -/
def agencies (o : Operator) : Resolve (List Agency) :=
  Resolve.rows .agenciesByOnestopId o.onestopId "agencies" none none

def feeds (o : Operator) (limit : Option Int) (filter : Option FeedFilter) : Resolve (List Feed) :=
  Resolve.rows .feedsByOperator o.onestopId "feeds" limit filter

end Operator

end Transit
