import Transit.Warehouse.ByKey
import Transit.Warehouse.Listing
set_option autoImplicit false

/-!
The look-ups that requests make in batches: references, which lead from an id to at most one row,
and relations, which lead from a parent, a filter and a limit to a list of rows.
-/

namespace Transit

/-- A look-up of one row by an id: its own, or that of the row to which it belongs. -/
inductive Reference
  | agency
  | route
  | stop
  | trip
  | feed
  | feedVersion
  | feedState
  | feedVersionImport
  | serviceWindow
  | calendar
  | shape
  | level
  | pathway
  | censusTable
  | agencyOperator
  | externalReference
  | targetStop
  deriving DecidableEq, Repr

/-- A look-up of the rows that belong to a parent. -/
inductive Relation
  | agenciesByFeedVersion
  | agenciesByOnestopId
  | agencyPlacesByAgency
  | calendarDatesByService
  | censusGeographiesByEntity
  | censusValuesByGeography
  | censusFieldsByTable
  | censusSourcesByDataset
  | feedFetchesByFeed
  | feedInfosByFeedVersion
  | feedVersionsByFeed
  | feedsByOperator
  | serviceLevelsByFeedVersion
  | frequenciesByTrip
  | levelsByParent
  | operatorsByFeed
  | pathwaysByFromStop
  | pathwaysByToStop
  | routeGeometriesByRoute
  | routeHeadwaysByRoute
  | routeStopPatternsByRoute
  | routeStopsByRoute
  | routeStopsByStop
  | routesByAgency
  | routesByFeedVersion
  | stopsByFeedVersion
  | stopsByLevel
  | stopsByParent
  | stopsByRoute
  | stopTimesByStop
  | stopTimesByTrip
  | tripsByFeedVersion
  | tripsByRoute
  deriving DecidableEq, Repr

namespace Reference

abbrev Row : Reference → Type
  | .agency => Agency
  | .route => Route
  | .stop => Stop
  | .trip => Trip
  | .feed => Feed
  | .feedVersion => FeedVersion
  | .feedState => FeedState
  | .feedVersionImport => FeedVersionImport
  | .serviceWindow => ServiceWindowRecord
  | .calendar => Calendar
  | .shape => Shape
  | .level => Level
  | .pathway => Pathway
  | .censusTable => CensusTable
  | .agencyOperator => Operator
  | .externalReference => StopExternalReference
  | .targetStop => Stop

/-- The name under which calls of the warehouse are counted. -/
def method : Reference → String
  | .agency => "agencies_by_ids"
  | .route => "routes_by_ids"
  | .stop => "stops_by_ids"
  | .trip => "trips_by_ids"
  | .feed => "feeds_by_ids"
  | .feedVersion => "feed_versions_by_ids"
  | .feedState => "feed_states_by_feed_ids"
  | .feedVersionImport => "feed_version_gtfs_imports_by_feed_version_ids"
  | .serviceWindow => "feed_version_service_windows_by_feed_version_ids"
  | .calendar => "calendars_by_ids"
  | .shape => "shapes_by_ids"
  | .level => "levels_by_ids"
  | .pathway => "pathways_by_ids"
  | .censusTable => "census_tables_by_ids"
  | .agencyOperator => "operators_by_agency_ids"
  | .externalReference => "stop_external_references_by_stop_ids"
  | .targetStop => "target_stops_by_stop_ids"

def byId {τ : Type} (rows : List τ) (key : τ → Int) (id : Int) : Option τ :=
  rows.find? (key · == id)

def find? (w : Warehouse) (id : Int) : (r : Reference) → Option r.Row
  | .agency => byId w.agencies (·.id) id
  | .route => byId w.routes (·.id) id
  | .stop => byId w.stops (·.id) id
  | .trip => byId w.trips (·.id) id
  | .feed => byId w.feeds (·.id) id
  | .feedVersion => byId w.feedVersions (·.id) id
  | .feedState => byId w.feedStates (·.feedId) id
  | .feedVersionImport => byId w.feedVersionImports (·.feedVersionId) id
  | .serviceWindow => byId w.serviceWindows (·.feedVersionId) id
  | .calendar => byId w.calendars (·.id) id
  | .shape => byId w.shapes (·.id) id
  | .level => byId w.levels (·.id) id
  | .pathway => byId w.pathways (·.id) id
  | .censusTable => byId w.censusTables (·.id) id
  | .agencyOperator => w.operators.find? (·.agencyId == some id)
  | .externalReference => byId w.stopExternalReferences (·.stopId) id
  | .targetStop => w.targetStop? id

def all : List Reference := [
  .agency, .route, .stop, .trip, .feed, .feedVersion,
  .feedState, .feedVersionImport, .serviceWindow, .calendar, .shape, .level,
  .pathway, .censusTable, .agencyOperator, .externalReference, .targetStop]

end Reference

namespace Relation

/-- What identifies a parent. -/
abbrev Parent : Relation → Type
  | .agenciesByOnestopId => String
  | .censusGeographiesByEntity => CensusEntityKind × Int
  | .censusValuesByGeography => String × String
  | .feedsByOperator => String
  | .stopTimesByStop => Int × Int
  | .stopTimesByTrip => Int × Int
  | _ => Int

abbrev Filter : Relation → Type
  | .agenciesByFeedVersion => AgencyFilter
  | .agenciesByOnestopId => AgencyFilter
  | .agencyPlacesByAgency => AgencyPlaceFilter
  | .calendarDatesByService => CalendarDateFilter
  | .censusGeographiesByEntity => CensusGeographyFilter
  | .censusSourcesByDataset => CensusSourceFilter
  | .feedFetchesByFeed => FeedFetchFilter
  | .feedVersionsByFeed => FeedVersionFilter
  | .feedsByOperator => FeedFilter
  | .serviceLevelsByFeedVersion => ServiceLevelFilter
  | .operatorsByFeed => OperatorFilter
  | .pathwaysByFromStop => PathwayFilter
  | .pathwaysByToStop => PathwayFilter
  | .routesByAgency => RouteFilter
  | .routesByFeedVersion => RouteFilter
  | .stopsByFeedVersion => StopFilter
  | .stopsByLevel => StopFilter
  | .stopsByParent => StopFilter
  | .stopsByRoute => StopFilter
  | .stopTimesByStop => StopTimeFilter
  | .stopTimesByTrip => TripStopTimeFilter
  | .tripsByFeedVersion => TripFilter
  | .tripsByRoute => TripFilter
  | _ => Unit

abbrev Row : Relation → Type
  | .agenciesByFeedVersion => Agency
  | .agenciesByOnestopId => Agency
  | .agencyPlacesByAgency => AgencyPlace
  | .calendarDatesByService => CalendarDate
  | .censusGeographiesByEntity => CensusGeography
  | .censusValuesByGeography => CensusValue
  | .censusFieldsByTable => CensusField
  | .censusSourcesByDataset => CensusSource
  | .feedFetchesByFeed => FeedFetch
  | .feedInfosByFeedVersion => FeedInfo
  | .feedVersionsByFeed => FeedVersion
  | .feedsByOperator => Feed
  | .serviceLevelsByFeedVersion => ServiceLevel
  | .frequenciesByTrip => Frequency
  | .levelsByParent => Level
  | .operatorsByFeed => Operator
  | .pathwaysByFromStop => Pathway
  | .pathwaysByToStop => Pathway
  | .routeGeometriesByRoute => RouteGeometry
  | .routeHeadwaysByRoute => RouteHeadway
  | .routeStopPatternsByRoute => RouteStopPattern
  | .routeStopsByRoute => RouteStop
  | .routeStopsByStop => RouteStop
  | .routesByAgency => Route
  | .routesByFeedVersion => Route
  | .stopsByFeedVersion => Stop
  | .stopsByLevel => Stop
  | .stopsByParent => Stop
  | .stopsByRoute => Stop
  | .stopTimesByStop => StopTime
  | .stopTimesByTrip => StopTime
  | .tripsByFeedVersion => Trip
  | .tripsByRoute => Trip

def method : Relation → String
  | .agenciesByFeedVersion => "agencies_by_feed_version_ids"
  | .agenciesByOnestopId => "agencies_by_onestop_ids"
  | .agencyPlacesByAgency => "agency_places_by_agency_ids"
  | .calendarDatesByService => "calendar_dates_by_service_ids"
  | .censusGeographiesByEntity => "census_geographies_by_entity_ids"
  | .censusValuesByGeography => "census_values_by_geography_ids"
  | .censusFieldsByTable => "census_fields_by_table_ids"
  | .censusSourcesByDataset => "census_sources_by_dataset_ids"
  | .feedFetchesByFeed => "feed_fetches_by_feed_ids"
  | .feedInfosByFeedVersion => "feed_infos_by_feed_version_ids"
  | .feedVersionsByFeed => "feed_versions_by_feed_ids"
  | .feedsByOperator => "feeds_by_operator_onestop_ids"
  | .serviceLevelsByFeedVersion => "feed_version_service_levels_by_feed_version_ids"
  | .frequenciesByTrip => "frequencies_by_trip_ids"
  | .levelsByParent => "levels_by_parent_station_ids"
  | .operatorsByFeed => "operators_by_feed_ids"
  | .pathwaysByFromStop => "pathways_by_from_stop_ids"
  | .pathwaysByToStop => "pathways_by_to_stop_ids"
  | .routeGeometriesByRoute => "route_geometries_by_route_ids"
  | .routeHeadwaysByRoute => "route_headways_by_route_ids"
  | .routeStopPatternsByRoute => "route_stop_patterns_by_route_ids"
  | .routeStopsByRoute => "route_stops_by_route_ids"
  | .routeStopsByStop => "route_stops_by_stop_ids"
  | .routesByAgency => "routes_by_agency_ids"
  | .routesByFeedVersion => "routes_by_feed_version_ids"
  | .stopsByFeedVersion => "stops_by_feed_version_ids"
  | .stopsByLevel => "stops_by_level_ids"
  | .stopsByParent => "stops_by_parent_stop_ids"
  | .stopsByRoute => "stops_by_route_ids"
  | .stopTimesByStop => "stop_times_by_stop_ids"
  | .stopTimesByTrip => "stop_times_by_trip_ids"
  | .tripsByFeedVersion => "trips_by_feed_version_ids"
  | .tripsByRoute => "trips_by_route_ids"

def find (w : Warehouse) : (r : Relation) → List (Param r.Parent r.Filter) →
    List (Except LookupError (List r.Row))
  | .agenciesByFeedVersion => w.agenciesByFeedVersion
  | .agenciesByOnestopId => w.agenciesByOnestopId
  | .agencyPlacesByAgency => w.agencyPlacesByAgency
  | .calendarDatesByService => w.calendarDatesByService
  | .censusGeographiesByEntity => w.censusGeographiesByEntity
  | .censusValuesByGeography => w.censusValuesByGeography
  | .censusFieldsByTable => w.censusFieldsByTable
  | .censusSourcesByDataset => w.censusSourcesByDataset
  | .feedFetchesByFeed => w.feedFetchesByFeed
  | .feedInfosByFeedVersion => w.feedInfosByFeedVersion
  | .feedVersionsByFeed => w.feedVersionsByFeed
  | .feedsByOperator => w.feedsByOperator
  | .serviceLevelsByFeedVersion => w.serviceLevelsByFeedVersion
  | .frequenciesByTrip => w.frequenciesByTrip
  | .levelsByParent => w.levelsByParent
  | .operatorsByFeed => w.operatorsByFeed
  | .pathwaysByFromStop => w.pathwaysByFromStop
  | .pathwaysByToStop => w.pathwaysByToStop
  | .routeGeometriesByRoute => w.routeGeometriesByRoute
  | .routeHeadwaysByRoute => w.routeHeadwaysByRoute
  | .routeStopPatternsByRoute => w.routeStopPatternsByRoute
  | .routeStopsByRoute => w.routeStopsByRoute
  | .routeStopsByStop => w.routeStopsByStop
  | .routesByAgency => w.routesByAgency
  | .routesByFeedVersion => w.routesByFeedVersion
  | .stopsByFeedVersion => w.stopsByFeedVersion
  | .stopsByLevel => w.stopsByLevel
  | .stopsByParent => w.stopsByParent
  | .stopsByRoute => w.stopsByRoute
  | .stopTimesByStop => w.stopTimesByStop
  | .stopTimesByTrip => w.stopTimesByTrip
  | .tripsByFeedVersion => w.tripsByFeedVersion
  | .tripsByRoute => w.tripsByRoute

def all : List Relation := [
  .agenciesByFeedVersion, .agenciesByOnestopId, .agencyPlacesByAgency,
  .calendarDatesByService, .censusGeographiesByEntity, .censusValuesByGeography,
  .censusFieldsByTable, .censusSourcesByDataset, .feedFetchesByFeed,
  .feedInfosByFeedVersion, .feedVersionsByFeed, .feedsByOperator,
  .serviceLevelsByFeedVersion, .frequenciesByTrip, .levelsByParent,
  .operatorsByFeed, .pathwaysByFromStop, .pathwaysByToStop,
  .routeGeometriesByRoute, .routeHeadwaysByRoute, .routeStopPatternsByRoute,
  .routeStopsByRoute, .routeStopsByStop, .routesByAgency,
  .routesByFeedVersion, .stopsByFeedVersion, .stopsByLevel,
  .stopsByParent, .stopsByRoute, .stopTimesByStop,
  .stopTimesByTrip, .tripsByFeedVersion, .tripsByRoute]

instance (r : Relation) : DecidableEq r.Parent := by
  cases r <;> exact inferInstance

instance (r : Relation) : DecidableEq r.Filter := by
  cases r <;> exact inferInstance

end Relation

inductive Lookup
  | one (r : Reference)
  | many (r : Relation)
  deriving DecidableEq, Repr

namespace Lookup

abbrev Key : Lookup → Type
  | .one _ => Int
  | .many r => Param r.Parent r.Filter

/-- The value of a key for which nothing is known is empty. -/
abbrev Value : Lookup → Type
  | .one r => Option r.Row
  | .many r => List r.Row

instance (l : Lookup) : DecidableEq l.Key :=
  match l with
  | .one _ => inferInstanceAs (DecidableEq Int)
  | .many r => inferInstanceAs (DecidableEq (Param r.Parent r.Filter))

instance (l : Lookup) : Inhabited l.Value :=
  match l with
  | .one _ => ⟨none⟩
  | .many _ => ⟨[]⟩

def method : Lookup → String
  | .one r => r.method
  | .many r => r.method

/-- What the warehouse says about a batch of keys. -/
def fetch (w : Warehouse) : (l : Lookup) → List l.Key → List (Except LookupError l.Value)
  | .one r, ids => ids.map fun id => .ok (r.find? w id)
  | .many r, params => r.find w params

def all : List Lookup := Reference.all.map .one ++ Relation.all.map .many

/-- Stop times come in batches of their own size. -/
def isStopTimes : Lookup → Bool
  | .many .stopTimesByStop => true
  | .many .stopTimesByTrip => true
  | _ => false

end Lookup

end Transit
