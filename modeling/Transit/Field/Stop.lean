import Transit.Gateway.Resolve
import Transit.Service.Days
set_option autoImplicit false

/-!
Fields of stops, and of the levels and pathways inside stations. The stop times of a stop are those
of every service day that a query touches, with the realtime data of the moment.
-/

namespace Transit

namespace Stop

def cursor (s : Stop) : Cursor := ⟨s.feedVersionId, s.id⟩

def feedVersion (s : Stop) : Resolve (Option FeedVersion) :=
  Resolve.row .feedVersion s.feedVersionId "feed_version"

def level (s : Stop) : Resolve (Option Level) :=
  Resolve.reference .level s.levelId "level"

def parent (s : Stop) : Resolve (Option Stop) :=
  Resolve.reference .stop s.parentStation "parent"

def children (s : Stop) (limit : Option Int) : Resolve (List Stop) :=
  Resolve.rows .stopsByParent s.id "children" limit none

def childLevels (s : Stop) (limit : Option Int) : Resolve (List Level) :=
  Resolve.rows .levelsByParent s.id "child_levels" limit none

def routeStops (s : Stop) (limit : Option Int) : Resolve (List RouteStop) :=
  Resolve.rows .routeStopsByStop s.id "route_stops" limit none

def pathwaysFromStop (s : Stop) (limit : Option Int) : Resolve (List Pathway) :=
  Resolve.rows .pathwaysByFromStop s.id "pathways_from_stop" limit none

def pathwaysToStop (s : Stop) (limit : Option Int) : Resolve (List Pathway) :=
  Resolve.rows .pathwaysByToStop s.id "pathways_to_stop" limit none

def externalReference (s : Stop) : Resolve (Option StopExternalReference) :=
  Resolve.row .externalReference s.id "external_reference"

def censusGeographies (s : Stop) (limit : Option Int) (filter : Option CensusGeographyFilter) :
    Resolve (List CensusGeography) :=
  Resolve.rows .censusGeographiesByEntity (.stop, s.id) "census_geographies" limit filter

def alerts (s : Stop) (active : Option Bool) (limit : Option Int) : Resolve (List Alert) :=
  Resolve.alerts s.feedVersionId active limit (Alert.namesStop s.stopId)

/-- The stops within some meters. -/
def nearbyStops (s : Stop) (limit : Option Int) (radius : Option Float) : Resolve (List Stop) := do
  let (limit, maxRadius) ← Resolve.look fun g => (g.limit limit, g.settings.maxRadius)
  let near : PointRadius :=
    ⟨s.geometry.x, s.geometry.y, Request.checkFloat (radius.getD 0.0) 0.0 maxRadius⟩
  Resolve.ask "find_stops" (·.listStops { limit, filter := some { near := some near } })

/-- The keys under which the rows of some service days are loaded. -/
def dayKeys (s : Stop) (limit : Option Int) (days : List StopTimeFilter) :
    List (Param (Int × Int) StopTimeFilter) :=
  days.map fun day => ⟨(s.feedVersionId, s.id), limit, some day⟩

/-- The rows of each day, stamped with the day's date, up to the first day that failed. -/
def stampDays : List (StopTimeFilter × Except LoadError (List StopTime)) →
    Except FieldError (List StopTime)
  | [] => .ok []
  | (day, loaded) :: rest => do
    let rows ← Resolve.ofLoaded "stop_times" loaded
    let rows := match day.serviceDate with
      | some d => rows.map (·.stamp d)
      | none => rows
    return rows ++ (← stampDays rest)

/-- The scheduled rows of some service days. -/
def scheduled (s : Stop) (limit : Option Int) (days : List StopTimeFilter) :
    Resolve (List StopTime) :=
  ExceptT.mk (.load (.many .stopTimesByStop) (s.dayKeys limit days) fun loaded =>
    .done (stampDays (days.zip loaded)))

/-- The service window that a filter's dates are mapped into. -/
def windowFor (s : Stop) (filter : StopTimeFilter) : Resolve (Option ServiceWindow) :=
  if filter.useServiceWindow.getD false then
    Resolve.on "stop_times" (Task.serviceWindow s.feedVersionId)
  else pure none

/-- The rows that a filter admits, on the clock of the stop's zone. -/
def display (s : Stop) (limit : Option Int) (filter : StopTimeFilter) :
    Resolve (List StopTime) := do
  let some zone ← Resolve.on "stop_times" (Task.stopZone s.id s.stopTimezone)
    | throw .timezoneUnavailable
  let (date, seconds) ← Resolve.look fun g => zone.localNow g.now
  let window ← s.windowFor filter
  let filter := filter.normalize ⟨date, seconds⟩ window
  let lookbehind ← Resolve.look (·.settings.lookbehind)
  let rows ← s.scheduled limit (filter.splitDays lookbehind)
  Resolve.checkCancelled
  let snapshot ← Resolve.on "stop_times" (Task.snapshot s.feedVersionId)
  let addedDate := (filter.date.or filter.serviceDate).or (some date)
  Resolve.on "stop_times" (Task.mergeStopTimes snapshot s zone rows addedDate)

def stopTimes (s : Stop) (limit : Option Int) (filter : Option StopTimeFilter) :
    Resolve (List StopTime) :=
  s.display limit (filter.getD {})

/-- Rows that leave the stop: the last calls of trips are left out. -/
def departures (s : Stop) (limit : Option Int) (filter : Option StopTimeFilter) :
    Resolve (List StopTime) :=
  s.display limit { filter.getD {} with excludeLast := some true }

/-- Rows that reach the stop: the first calls of trips are left out. -/
def arrivals (s : Stop) (limit : Option Int) (filter : Option StopTimeFilter) :
    Resolve (List StopTime) :=
  s.display limit { filter.getD {} with excludeFirst := some true }

end Stop

/-- The stop in the active version of the other feed. An inactive reference leads nowhere. -/
def StopExternalReference.targetActiveStop (r : StopExternalReference) : Resolve (Option Stop) :=
  if r.inactive then pure none else Resolve.row .targetStop r.stopId "target_active_stop"

def Level.stops (l : Level) (limit : Option Int) : Resolve (List Stop) :=
  Resolve.rows .stopsByLevel l.id "stops" limit none

def Pathway.fromStop (p : Pathway) : Resolve (Option Stop) :=
  Resolve.row .stop p.fromStopId "from_stop"

def Pathway.toStop (p : Pathway) : Resolve (Option Stop) :=
  Resolve.row .stop p.toStopId "to_stop"

end Transit
