import Transit.Gateway.Resolve
set_option autoImplicit false

/-!
Fields of routes, of their stops, headways and stop patterns.
-/

namespace Transit

namespace Route

def cursor (r : Route) : Cursor := ⟨r.feedVersionId, r.id⟩

def agency (r : Route) : Resolve (Option Agency) :=
  Resolve.row .agency r.agencyId "agency"

def feedVersion (r : Route) : Resolve (Option FeedVersion) :=
  Resolve.row .feedVersion r.feedVersionId "feed_version"

def trips (r : Route) (limit : Option Int) (filter : Option TripFilter) : Resolve (List Trip) :=
  Resolve.rows .tripsByRoute r.id "trips" limit filter

def stops (r : Route) (limit : Option Int) (filter : Option StopFilter) : Resolve (List Stop) :=
  Resolve.rows .stopsByRoute r.id "stops" limit filter

def routeStops (r : Route) (limit : Option Int) : Resolve (List RouteStop) :=
  Resolve.rows .routeStopsByRoute r.id "route_stops" limit none

def headways (r : Route) (limit : Option Int) : Resolve (List RouteHeadway) :=
  Resolve.rows .routeHeadwaysByRoute r.id "headways" limit none

def patterns (r : Route) : Resolve (List RouteStopPattern) :=
  Resolve.rows .routeStopPatternsByRoute r.id "patterns" none none

def geometries (r : Route) (limit : Option Int) : Resolve (List RouteGeometry) :=
  Resolve.rows .routeGeometriesByRoute r.id "geometries" limit none

/-- The first stored geometry of the route. -/
def geometry (r : Route) : Resolve (Option (List Point)) := do
  let stored ← Resolve.rows .routeGeometriesByRoute r.id "geometry" none none
  return stored.findSome? (·.geometry)

/-- The greatest radius of a buffer in meters. -/
def maxBufferRadius : Float := 2000.0

def stopBuffer (r : Route) (radius : Option Float) : Resolve (Option RouteStopBuffer) :=
  Resolve.ask "route_stop_buffer"
    (·.routeStopBuffer? r.id (Request.checkFloat (radius.getD 0.0) 0.0 maxBufferRadius))

def censusGeographies (r : Route) (limit : Option Int) (filter : Option CensusGeographyFilter) :
    Resolve (List CensusGeography) :=
  Resolve.rows .censusGeographiesByEntity (.route, r.id) "census_geographies" limit filter

def alerts (r : Route) (active : Option Bool) (limit : Option Int) : Resolve (List Alert) :=
  Resolve.alerts r.feedVersionId active limit (Alert.namesRoute r.routeId)

end Route

namespace RouteStop

def route (r : RouteStop) : Resolve (Option Route) :=
  Resolve.row .route r.routeId "route"

def stop (r : RouteStop) : Resolve (Option Stop) :=
  Resolve.row .stop r.stopId "stop"

def agency (r : RouteStop) : Resolve (Option Agency) :=
  Resolve.row .agency r.agencyId "agency"

end RouteStop

namespace RouteHeadway

def stop (h : RouteHeadway) : Resolve (Option Stop) :=
  Resolve.row .stop h.selectedStopId "stop"

/-- The departures as times of the service day; negative ones are left out. -/
def departureTimes (h : RouteHeadway) : List WideTime :=
  h.departures.filterMap fun n => (WideTime.ofSeconds n).toOption

end RouteHeadway

/-- The trips of the route that have this pattern. -/
def RouteStopPattern.trips (p : RouteStopPattern) (limit : Option Int) : Resolve (List Trip) :=
  Resolve.rows .tripsByRoute p.routeId "trips" limit (some { stopPatternId := some p.stopPatternId })

end Transit
