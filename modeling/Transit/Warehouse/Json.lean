import Transit.Warehouse.Basic
set_option autoImplicit false

/-!
A warehouse as a JSON object with a list of records for each table.
-/

namespace Transit.Warehouse

/-- Tables that are missing are empty. -/
def ofJson? (j : Json) : Option Warehouse := do
  let f ← j.fields?
  some {
    feeds := ← f.withDefault (Json.readList Feed.ofJson?) "feeds" []
    feedStates := ← f.withDefault (Json.readList FeedState.ofJson?) "feed_states" []
    feedFetches := ← f.withDefault (Json.readList FeedFetch.ofJson?) "feed_fetches" []
    feedVersions := ← f.withDefault (Json.readList FeedVersion.ofJson?) "feed_versions" []
    feedVersionImports := ← f.withDefault (Json.readList FeedVersionImport.ofJson?) "feed_version_gtfs_imports" []
    serviceWindows := ← f.withDefault (Json.readList ServiceWindowRecord.ofJson?) "feed_version_service_windows" []
    serviceLevels := ← f.withDefault (Json.readList ServiceLevel.ofJson?) "feed_version_service_levels" []
    feedInfos := ← f.withDefault (Json.readList FeedInfo.ofJson?) "feed_infos" []
    agencies := ← f.withDefault (Json.readList Agency.ofJson?) "agencies" []
    agencyPlaces := ← f.withDefault (Json.readList AgencyPlace.ofJson?) "agency_places" []
    operators := ← f.withDefault (Json.readList Operator.ofJson?) "operators" []
    routes := ← f.withDefault (Json.readList Route.ofJson?) "routes" []
    routeStops := ← f.withDefault (Json.readList RouteStop.ofJson?) "route_stops" []
    routeHeadways := ← f.withDefault (Json.readList RouteHeadway.ofJson?) "route_headways" []
    routeStopPatterns := ← f.withDefault (Json.readList RouteStopPattern.ofJson?) "route_stop_patterns" []
    routeGeometries := ← f.withDefault (Json.readList RouteGeometry.ofJson?) "route_geometries" []
    stops := ← f.withDefault (Json.readList Stop.ofJson?) "stops" []
    stopExternalReferences := ← f.withDefault (Json.readList StopExternalReference.ofJson?) "stop_external_references" []
    levels := ← f.withDefault (Json.readList Level.ofJson?) "levels" []
    pathways := ← f.withDefault (Json.readList Pathway.ofJson?) "pathways" []
    trips := ← f.withDefault (Json.readList Trip.ofJson?) "trips" []
    stopTimes := ← f.withDefault (Json.readList StopTime.ofJson?) "stop_times" []
    calendars := ← f.withDefault (Json.readList Calendar.ofJson?) "calendars" []
    calendarDates := ← f.withDefault (Json.readList CalendarDate.ofJson?) "calendar_dates" []
    frequencies := ← f.withDefault (Json.readList Frequency.ofJson?) "frequencies" []
    shapes := ← f.withDefault (Json.readList Shape.ofJson?) "shapes" []
    censusDatasets := ← f.withDefault (Json.readList CensusDataset.ofJson?) "census_datasets" []
    censusSources := ← f.withDefault (Json.readList CensusSource.ofJson?) "census_sources" []
    censusGeographies := ← f.withDefault (Json.readList CensusGeography.ofJson?) "census_geographies" []
    censusTables := ← f.withDefault (Json.readList CensusTable.ofJson?) "census_tables" []
    censusFields := ← f.withDefault (Json.readList CensusField.ofJson?) "census_fields" []
    censusValues := ← f.withDefault (Json.readList CensusValue.ofJson?) "census_values" []
    bikes := ← f.withDefault (Json.readList FreeBike.ofJson?) "gbfs_bikes" []
    docks := ← f.withDefault (Json.readList DockingStation.ofJson?) "gbfs_docks" [] }

def toJson (w : Warehouse) : Json := .obj [
  ("feeds", .ofList Feed.toJson w.feeds),
  ("feed_states", .ofList FeedState.toJson w.feedStates),
  ("feed_fetches", .ofList FeedFetch.toJson w.feedFetches),
  ("feed_versions", .ofList FeedVersion.toJson w.feedVersions),
  ("feed_version_gtfs_imports", .ofList FeedVersionImport.toJson w.feedVersionImports),
  ("feed_version_service_windows", .ofList ServiceWindowRecord.toJson w.serviceWindows),
  ("feed_version_service_levels", .ofList ServiceLevel.toJson w.serviceLevels),
  ("feed_infos", .ofList FeedInfo.toJson w.feedInfos),
  ("agencies", .ofList Agency.toJson w.agencies),
  ("agency_places", .ofList AgencyPlace.toJson w.agencyPlaces),
  ("operators", .ofList Operator.toJson w.operators),
  ("routes", .ofList Route.toJson w.routes),
  ("route_stops", .ofList RouteStop.toJson w.routeStops),
  ("route_headways", .ofList RouteHeadway.toJson w.routeHeadways),
  ("route_stop_patterns", .ofList RouteStopPattern.toJson w.routeStopPatterns),
  ("route_geometries", .ofList RouteGeometry.toJson w.routeGeometries),
  ("stops", .ofList Stop.toJson w.stops),
  ("stop_external_references", .ofList StopExternalReference.toJson w.stopExternalReferences),
  ("levels", .ofList Level.toJson w.levels),
  ("pathways", .ofList Pathway.toJson w.pathways),
  ("trips", .ofList Trip.toJson w.trips),
  ("stop_times", .ofList StopTime.toJson w.stopTimes),
  ("calendars", .ofList Calendar.toJson w.calendars),
  ("calendar_dates", .ofList CalendarDate.toJson w.calendarDates),
  ("frequencies", .ofList Frequency.toJson w.frequencies),
  ("shapes", .ofList Shape.toJson w.shapes),
  ("census_datasets", .ofList CensusDataset.toJson w.censusDatasets),
  ("census_sources", .ofList CensusSource.toJson w.censusSources),
  ("census_geographies", .ofList CensusGeography.toJson w.censusGeographies),
  ("census_tables", .ofList CensusTable.toJson w.censusTables),
  ("census_fields", .ofList CensusField.toJson w.censusFields),
  ("census_values", .ofList CensusValue.toJson w.censusValues),
  ("gbfs_bikes", .ofList FreeBike.toJson w.bikes),
  ("gbfs_docks", .ofList DockingStation.toJson w.docks)]

end Transit.Warehouse
