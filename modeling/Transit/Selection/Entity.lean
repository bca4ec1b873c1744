import Transit.Field.Agency
import Transit.Field.Census
import Transit.Field.Feed
import Transit.Field.Stop
import Transit.Selection.Display
set_option autoImplicit false

/-!
The kinds of rows whose fields can be selected, by name: how a row is found, and which fields it has.
-/

namespace Transit

open Selection

/-- A cursor as clients get it. -/
def Cursor.toJson (c : Cursor) : Json := .str c.encode

/-- A row that is given whole. -/
def givenRow {α : Type} (read : Json → Option α) (args : Args) : Select α :=
  args.required read "obj"

/-- A row that is given whole, or by an id under some name, which is then loaded. -/
def loadedRow (r : Reference) (read : Json → Option r.Row) (idName : String) (args : Args) :
    Select r.Row := do
  match ← args.optional read "obj" with
  | some row => return row
  | none =>
    let id ← args.required Json.readInt64 idName
    let loaded : Except LoadError (Option r.Row) ←
      Select.task (Task.load (.one r) [id] fun values => .done (values.headD (.error .cancelled)))
    match loaded with
    | .ok (some row) => return row
    | .ok none => throw .noParent
    | .error e => throw (.load e)

/-- A kind of row. -/
structure Entity where
  name : String
  Row : Type
  row : Args → Select Row
  fields : List (String × Selection Row)

namespace Entity

def agency : Entity where
  name := "agency"
  Row := Agency
  row := loadedRow .agency Agency.ofJson? "id"
  fields := [
    ("self", plain Agency.toJson),
    ("cursor", plain fun a => a.cursor.toJson),
    ("routes", filtered (.ofList Route.toJson) RouteFilter.ofJson? Agency.routes),
    ("feed_version", simple (.ofOption FeedVersion.toJson) Agency.feedVersion),
    ("places", filtered (.ofList AgencyPlace.toJson) AgencyPlaceFilter.ofJson? Agency.places),
    ("operator", simple (.ofOption Operator.toJson) Agency.operator),
    ("census_geographies", filtered (.ofList CensusGeography.toJson) CensusGeographyFilter.ofJson?
      Agency.censusGeographies),
    ("alerts", alerts Agency.alerts)]

/-- The buffer takes a radius in meters. -/
def stopBuffer : Selection Route := fun r args => do
  let radius ← args.optional Json.readFloat "radius"
  return .ofOption RouteStopBuffer.display (← Select.ofField (r.stopBuffer radius))

def route : Entity where
  name := "route"
  Row := Route
  row := loadedRow .route Route.ofJson? "id"
  fields := [
    ("self", plain Route.toJson),
    ("cursor", plain fun r => r.cursor.toJson),
    ("agency", simple (.ofOption Agency.toJson) Route.agency),
    ("feed_version", simple (.ofOption FeedVersion.toJson) Route.feedVersion),
    ("trips", filtered (.ofList Trip.toJson) TripFilter.ofJson? Route.trips),
    ("stops", filtered (.ofList Stop.toJson) StopFilter.ofJson? Route.stops),
    ("route_stops", limited (.ofList RouteStop.toJson) Route.routeStops),
    ("headways", limited (.ofList RouteHeadway.toJson) Route.headways),
    ("patterns", simple (.ofList RouteStopPattern.toJson) Route.patterns),
    ("geometries", limited (.ofList RouteGeometry.toJson) Route.geometries),
    ("geometry", simple (.ofOption (.ofList Point.toJson)) Route.geometry),
    ("route_stop_buffer", stopBuffer),
    ("census_geographies", filtered (.ofList CensusGeography.toJson) CensusGeographyFilter.ofJson?
      Route.censusGeographies),
    ("alerts", alerts Route.alerts)]

def routeStop : Entity where
  name := "route_stop"
  Row := RouteStop
  row := givenRow RouteStop.ofJson?
  fields := [
    ("route", simple (.ofOption Route.toJson) RouteStop.route),
    ("stop", simple (.ofOption Stop.toJson) RouteStop.stop),
    ("agency", simple (.ofOption Agency.toJson) RouteStop.agency)]

def routeHeadway : Entity where
  name := "route_headway"
  Row := RouteHeadway
  row := givenRow RouteHeadway.ofJson?
  fields := [
    ("stop", simple (.ofOption Stop.toJson) RouteHeadway.stop),
    ("departures", plain fun h => .ofList WideTime.toJson h.departureTimes)]

def routeStopPattern : Entity where
  name := "route_stop_pattern"
  Row := RouteStopPattern
  row := givenRow RouteStopPattern.ofJson?
  fields := [("trips", limited (.ofList Trip.toJson) RouteStopPattern.trips)]

/-- The search takes a radius in meters. -/
def nearbyStops : Selection Stop := fun s args => do
  let limit ← args.limit
  let radius ← args.optional Json.readFloat "radius"
  return .ofList Stop.toJson (← Select.ofField (s.nearbyStops limit radius))

def stop : Entity where
  name := "stop"
  Row := Stop
  row := loadedRow .stop Stop.ofJson? "id"
  fields := [
    ("self", plain Stop.toJson),
    ("cursor", plain fun s => s.cursor.toJson),
    ("feed_version", simple (.ofOption FeedVersion.toJson) Stop.feedVersion),
    ("level", simple (.ofOption Level.toJson) Stop.level),
    ("parent", simple (.ofOption Stop.toJson) Stop.parent),
    ("children", limited (.ofList Stop.toJson) Stop.children),
    ("child_levels", limited (.ofList Level.toJson) Stop.childLevels),
    ("route_stops", limited (.ofList RouteStop.toJson) Stop.routeStops),
    ("pathways_from_stop", limited (.ofList Pathway.toJson) Stop.pathwaysFromStop),
    ("pathways_to_stop", limited (.ofList Pathway.toJson) Stop.pathwaysToStop),
    ("external_reference", simple (.ofOption StopExternalReference.toJson) Stop.externalReference),
    ("census_geographies", filtered (.ofList CensusGeography.toJson) CensusGeographyFilter.ofJson?
      Stop.censusGeographies),
    ("alerts", alerts Stop.alerts),
    ("nearby_stops", nearbyStops),
    ("stop_times", StopTime.selection StopTimeFilter.ofJson? Stop.stopTimes),
    ("departures", StopTime.selection StopTimeFilter.ofJson? Stop.departures),
    ("arrivals", StopTime.selection StopTimeFilter.ofJson? Stop.arrivals)]

def stopExternalReference : Entity where
  name := "stop_external_reference"
  Row := StopExternalReference
  row := givenRow StopExternalReference.ofJson?
  fields := [("target_active_stop",
    simple (.ofOption Stop.toJson) StopExternalReference.targetActiveStop)]

def level : Entity where
  name := "level"
  Row := Level
  row := loadedRow .level Level.ofJson? "id"
  fields := [
    ("self", plain Level.toJson),
    ("stops", limited (.ofList Stop.toJson) Level.stops)]

def pathway : Entity where
  name := "pathway"
  Row := Pathway
  row := loadedRow .pathway Pathway.ofJson? "id"
  fields := [
    ("self", plain Pathway.toJson),
    ("from_stop", simple (.ofOption Stop.toJson) Pathway.fromStop),
    ("to_stop", simple (.ofOption Stop.toJson) Pathway.toStop)]

def trip : Entity where
  name := "trip"
  Row := Trip
  row := loadedRow .trip Trip.ofJson? "id"
  fields := [
    ("self", plain Trip.toJson),
    ("cursor", plain fun t => t.cursor.toJson),
    ("route", simple (.ofOption Route.toJson) Trip.route),
    ("feed_version", simple (.ofOption FeedVersion.toJson) Trip.feedVersion),
    ("shape", simple (.ofOption Shape.toJson) Trip.shape),
    ("calendar", simple (.ofOption Calendar.toJson) Trip.calendar),
    ("stop_times", StopTime.selection TripStopTimeFilter.ofJson? Trip.stopTimes),
    ("frequencies", limited (.ofList Frequency.toJson) Trip.frequencies),
    ("schedule_relationship",
      simple (.ofOption ScheduleRelationship.toJson) Trip.scheduleRelationship),
    ("timestamp", simple (.ofOption Instant.toJson) Trip.timestamp),
    ("alerts", alerts Trip.alerts)]

def stopTime : Entity where
  name := "stop_time"
  Row := StopTime
  row := givenRow StopTime.rowOfJson?
  fields := [
    ("stop", simple (.ofOption Stop.toJson) StopTime.stop),
    ("trip", simple (.ofOption Trip.toJson) StopTime.trip),
    ("arrival", simple StopTimeEvent.toJson StopTime.arrival),
    ("departure", simple StopTimeEvent.toJson StopTime.departure),
    ("schedule_relationship",
      simple (.ofOption ScheduleRelationship.toJson) StopTime.scheduleRelationship)]

def calendar : Entity where
  name := "calendar"
  Row := Calendar
  row := loadedRow .calendar Calendar.ofJson? "id"
  fields := [
    ("self", plain Calendar.toJson),
    ("added_dates", limited (.ofList Date.toJson) Calendar.addedDates),
    ("removed_dates", limited (.ofList Date.toJson) Calendar.removedDates)]

def feed : Entity where
  name := "feed"
  Row := Feed
  row := loadedRow .feed Feed.ofJson? "id"
  fields := [
    ("self", plain Feed.toJson),
    ("cursor", plain fun f => f.cursor.toJson),
    ("feed_state", simple (.ofOption FeedState.toJson) Feed.feedState),
    ("feed_versions", filtered (.ofList FeedVersion.toJson) FeedVersionFilter.ofJson?
      Feed.feedVersions),
    ("feed_fetches", filtered (.ofList FeedFetch.toJson) FeedFetchFilter.ofJson? Feed.feedFetches),
    ("associated_operators", simple (.ofList Operator.toJson) Feed.associatedOperators),
    ("alerts", alerts Feed.alerts)]

def feedState : Entity where
  name := "feed_state"
  Row := FeedState
  row := givenRow FeedState.ofJson?
  fields := [("feed_version", simple (.ofOption FeedVersion.toJson) FeedState.feedVersion)]

def feedVersion : Entity where
  name := "feed_version"
  Row := FeedVersion
  row := loadedRow .feedVersion FeedVersion.ofJson? "id"
  fields := [
    ("self", plain FeedVersion.toJson),
    ("cursor", plain fun v => v.cursor.toJson),
    ("feed", simple (.ofOption Feed.toJson) FeedVersion.feed),
    ("agencies", filtered (.ofList Agency.toJson) AgencyFilter.ofJson? FeedVersion.agencies),
    ("routes", filtered (.ofList Route.toJson) RouteFilter.ofJson? FeedVersion.routes),
    ("stops", filtered (.ofList Stop.toJson) StopFilter.ofJson? FeedVersion.stops),
    ("trips", filtered (.ofList Trip.toJson) TripFilter.ofJson? FeedVersion.trips),
    ("gtfs_import", simple (.ofOption FeedVersionImport.toJson) FeedVersion.gtfsImport),
    ("service_levels", filtered (.ofList ServiceLevel.toJson) ServiceLevelFilter.ofJson?
      FeedVersion.serviceLevels),
    ("feed_infos", limited (.ofList FeedInfo.toJson) FeedVersion.feedInfos),
    ("service_window", simple (.ofOption ServiceWindowRecord.toJson) FeedVersion.serviceWindow),
    ("effective_service_window",
      simple (.ofOption ServiceWindow.toJson) FeedVersion.effectiveServiceWindow)]

/-- An operator is found by one of its agencies. -/
def operator : Entity where
  name := "operator"
  Row := Operator
  row := loadedRow .agencyOperator Operator.ofJson? "agency_id"
  fields := [
    ("self", plain Operator.toJson),
    ("cursor", plain fun o => o.cursor.toJson),
    ("agencies", simple (.ofList Agency.toJson) Operator.agencies),
    ("feeds", filtered (.ofList Feed.toJson) FeedFilter.ofJson? Operator.feeds)]

def censusDataset : Entity where
  name := "census_dataset"
  Row := CensusDataset
  row := givenRow CensusDataset.ofJson?
  fields := [("sources", filtered (.ofList CensusSource.toJson) CensusSourceFilter.ofJson?
    CensusDataset.sources)]

/-- The values are selected by the names of their tables. -/
def censusValues : Selection CensusGeography := fun g args => do
  let tableNames ← args.required Json.readTexts "table_names"
  let limit ← args.limit
  return .ofList CensusValue.toJson (← Select.ofField (g.values tableNames limit))

def censusGeography : Entity where
  name := "census_geography"
  Row := CensusGeography
  row := givenRow CensusGeography.ofJson?
  fields := [("values", censusValues)]

def censusValue : Entity where
  name := "census_value"
  Row := CensusValue
  row := givenRow CensusValue.ofJson?
  fields := [("table", simple (.ofOption CensusTable.toJson) CensusValue.table)]

def censusTable : Entity where
  name := "census_table"
  Row := CensusTable
  row := loadedRow .censusTable CensusTable.ofJson? "id"
  fields := [
    ("self", plain CensusTable.toJson),
    ("fields", limited (.ofList CensusField.toJson) CensusTable.fields)]

def all : List Entity := [
  agency, route, routeStop, routeHeadway, routeStopPattern, stop, stopExternalReference, level,
  pathway, trip, stopTime, calendar, feed, feedState, feedVersion, operator, censusDataset,
  censusGeography, censusValue, censusTable]

/-- Select a field of a row. -/
def select (e : Entity) (field : String) (args : Args) : Select Json := do
  let row ← e.row args
  match e.fields.lookup field with
  | some selection => selection row args
  | none => throw .malformed

end Entity

end Transit
