import Transit.Record.Agency
import Transit.Record.Route
import Transit.Record.Stop
import Transit.Record.Trip
import Transit.Record.Feed
import Transit.Record.Census
import Transit.Record.BikeShare
set_option autoImplicit false

/-!
The warehouse: the tables of feeds, their versions, and the transit, census and bike-share records
in them. Rows keep the order in which they were added.
-/

namespace Transit

structure Warehouse where
  feeds : List Feed := []
  feedStates : List FeedState := []
  feedFetches : List FeedFetch := []
  feedVersions : List FeedVersion := []
  feedVersionImports : List FeedVersionImport := []
  serviceWindows : List ServiceWindowRecord := []
  serviceLevels : List ServiceLevel := []
  feedInfos : List FeedInfo := []
  agencies : List Agency := []
  agencyPlaces : List AgencyPlace := []
  operators : List Operator := []
  routes : List Route := []
  routeStops : List RouteStop := []
  routeHeadways : List RouteHeadway := []
  routeStopPatterns : List RouteStopPattern := []
  routeGeometries : List RouteGeometry := []
  stops : List Stop := []
  stopExternalReferences : List StopExternalReference := []
  levels : List Level := []
  pathways : List Pathway := []
  trips : List Trip := []
  stopTimes : List StopTime := []
  calendars : List Calendar := []
  calendarDates : List CalendarDate := []
  frequencies : List Frequency := []
  shapes : List Shape := []
  censusDatasets : List CensusDataset := []
  censusSources : List CensusSource := []
  censusGeographies : List CensusGeography := []
  censusTables : List CensusTable := []
  censusFields : List CensusField := []
  censusValues : List CensusValue := []
  bikes : List FreeBike := []
  docks : List DockingStation := []
  deriving DecidableEq, Repr, Inhabited

namespace Warehouse

def feedVersion? (w : Warehouse) (id : Int) : Option FeedVersion :=
  w.feedVersions.find? (·.id == id)

def feed? (w : Warehouse) (id : Int) : Option Feed :=
  w.feeds.find? (·.id == id)

def feedByOnestopId? (w : Warehouse) (onestopId : String) : Option Feed :=
  w.feeds.find? (·.onestopId == onestopId)

def agency? (w : Warehouse) (id : Int) : Option Agency :=
  w.agencies.find? (·.id == id)

def stop? (w : Warehouse) (id : Int) : Option Stop :=
  w.stops.find? (·.id == id)

def route? (w : Warehouse) (id : Int) : Option Route :=
  w.routes.find? (·.id == id)

def trip? (w : Warehouse) (id : Int) : Option Trip :=
  w.trips.find? (·.id == id)

/-- The feed that a feed version belongs to. -/
def feedOfVersion? (w : Warehouse) (feedVersionId : Int) : Option Feed := do
  w.feed? (← w.feedVersion? feedVersionId).feedId

/-- The active version of a feed. -/
def activeVersion? (w : Warehouse) (feedId : Int) : Option Int := do
  (← w.feedStates.find? (·.feedId == feedId)).feedVersionId

/-- Where the stops of a route are. -/
def routePoints (w : Warehouse) (routeId : Int) : List Point :=
  ((w.routeStops.filter (·.routeId == routeId)).filterMap fun r => w.stop? r.stopId).map (·.geometry)

/-- Where the stops of an agency are. -/
def agencyPoints (w : Warehouse) (agencyId : Int) : List Point :=
  ((w.routeStops.filter (·.agencyId == agencyId)).filterMap fun r => w.stop? r.stopId).map (·.geometry)

end Warehouse

end Transit
