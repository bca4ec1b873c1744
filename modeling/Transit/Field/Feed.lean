import Transit.Gateway.Resolve
set_option autoImplicit false

/-!
Fields of feeds and feed versions.
-/

namespace Transit

namespace Feed

/-- Feeds belong to no feed version. -/
def cursor (f : Feed) : Cursor := ⟨0, f.id⟩

def feedState (f : Feed) : Resolve (Option FeedState) :=
  Resolve.row .feedState f.id "feed_state"

def feedVersions (f : Feed) (limit : Option Int) (filter : Option FeedVersionFilter) :
    Resolve (List FeedVersion) :=
  Resolve.rows .feedVersionsByFeed f.id "feed_versions" limit filter

def feedFetches (f : Feed) (limit : Option Int) (filter : Option FeedFetchFilter) :
    Resolve (List FeedFetch) :=
  Resolve.rows .feedFetchesByFeed f.id "feed_fetches" limit filter

def associatedOperators (f : Feed) : Resolve (List Operator) :=
  Resolve.rows .operatorsByFeed f.id "associated_operators" none none

/-- The alerts that the feed itself publishes. -/
def alerts (f : Feed) (active : Option Bool) (limit : Option Int) : Resolve (List Alert) := do
  let query ← Resolve.alertQuery active limit
  let sources ← Resolve.look (·.sourcesOf f.onestopId)
  return Alert.select query (fun _ => true) (sources.alerts.elim [] (·.alerts))

end Feed

/-- The active version of the feed. -/
def FeedState.feedVersion (s : FeedState) : Resolve (Option FeedVersion) :=
  Resolve.reference .feedVersion s.feedVersionId "feed_version"

namespace FeedVersion

/-- Feed versions are listed across feed versions. -/
def cursor (v : FeedVersion) : Cursor := ⟨0, v.id⟩

def feed (v : FeedVersion) : Resolve (Option Feed) :=
  Resolve.row .feed v.feedId "feed"

def agencies (v : FeedVersion) (limit : Option Int) (filter : Option AgencyFilter) :
    Resolve (List Agency) :=
  Resolve.rows .agenciesByFeedVersion v.id "agencies" limit filter

def routes (v : FeedVersion) (limit : Option Int) (filter : Option RouteFilter) :
    Resolve (List Route) :=
  Resolve.rows .routesByFeedVersion v.id "routes" limit filter

def stops (v : FeedVersion) (limit : Option Int) (filter : Option StopFilter) :
    Resolve (List Stop) :=
  Resolve.rows .stopsByFeedVersion v.id "stops" limit filter

def trips (v : FeedVersion) (limit : Option Int) (filter : Option TripFilter) :
    Resolve (List Trip) :=
  Resolve.rows .tripsByFeedVersion v.id "trips" limit filter

def gtfsImport (v : FeedVersion) : Resolve (Option FeedVersionImport) :=
  Resolve.row .feedVersionImport v.id "feed_version_gtfs_import"

def serviceLevels (v : FeedVersion) (limit : Option Int) (filter : Option ServiceLevelFilter) :
    Resolve (List ServiceLevel) :=
  Resolve.rows .serviceLevelsByFeedVersion v.id "service_levels" limit filter

def feedInfos (v : FeedVersion) (limit : Option Int) : Resolve (List FeedInfo) :=
  Resolve.rows .feedInfosByFeedVersion v.id "feed_infos" limit none

/-- The stored record of the service window. -/
def serviceWindow (v : FeedVersion) : Resolve (Option ServiceWindowRecord) :=
  Resolve.row .serviceWindow v.id "service_window"

/-- The service window that queries for stop times use. -/
def effectiveServiceWindow (v : FeedVersion) : Resolve (Option ServiceWindow) :=
  Resolve.on "effective_service_window" (Task.serviceWindow v.id)

end FeedVersion

end Transit
