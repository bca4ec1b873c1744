import Transit.Record.Scalar
set_option autoImplicit false

/-!
Routes and what is precomputed for them: their stops, headways, stop patterns and shapes.
-/

namespace Transit

/-- A route of one feed version. -/
structure Route where
  id : Int := 0
  feedVersionId : Int := 0
  feedVersionSha1 : String := ""
  feedOnestopId : String := ""
  onestopId : String := ""
  routeId : String := ""
  agencyId : Int := 0
  routeShortName : String := ""
  routeLongName : String := ""
  routeDesc : Option String := none
  routeType : Int := 0
  routeUrl : Option String := none
  routeColor : Option String := none
  routeTextColor : Option String := none
  routeSortOrder : Option Int := none
  continuousPickup : Option Int := none
  continuousDropOff : Option Int := none
  deriving DecidableEq, Repr, Inhabited

def Route.ofJson? (j : Json) : Option Route := do
  let f ← j.fields?
  some {
    id := ← f.withDefault Json.readInt64 "id" 0
    feedVersionId := ← f.withDefault Json.readInt64 "feed_version_id" 0
    feedVersionSha1 := ← f.withDefault Json.readText "feed_version_sha1" ""
    feedOnestopId := ← f.withDefault Json.readText "feed_onestop_id" ""
    onestopId := ← f.withDefault Json.readText "onestop_id" ""
    routeId := ← f.withDefault Json.readText "route_id" ""
    agencyId := ← f.withDefault Json.readInt64 "agency_id" 0
    routeShortName := ← f.withDefault Json.readText "route_short_name" ""
    routeLongName := ← f.withDefault Json.readText "route_long_name" ""
    routeDesc := ← f.optional Json.readText "route_desc"
    routeType := ← f.withDefault Json.readInt32 "route_type" 0
    routeUrl := ← f.optional Json.readText "route_url"
    routeColor := ← f.optional Json.readText "route_color"
    routeTextColor := ← f.optional Json.readText "route_text_color"
    routeSortOrder := ← f.optional Json.readInt32 "route_sort_order"
    continuousPickup := ← f.optional Json.readInt32 "continuous_pickup"
    continuousDropOff := ← f.optional Json.readInt32 "continuous_drop_off" }

def Route.toJson (r : Route) : Json := .obj [
  ("id", .int r.id),
  ("feed_version_id", .int r.feedVersionId),
  ("feed_version_sha1", .str r.feedVersionSha1),
  ("feed_onestop_id", .str r.feedOnestopId),
  ("onestop_id", .str r.onestopId),
  ("route_id", .str r.routeId),
  ("agency_id", .int r.agencyId),
  ("route_short_name", .str r.routeShortName),
  ("route_long_name", .str r.routeLongName),
  ("route_desc", .ofOption .str r.routeDesc),
  ("route_type", .int r.routeType),
  ("route_url", .ofOption .str r.routeUrl),
  ("route_color", .ofOption .str r.routeColor),
  ("route_text_color", .ofOption .str r.routeTextColor),
  ("route_sort_order", .ofOption .int r.routeSortOrder),
  ("continuous_pickup", .ofOption .int r.continuousPickup),
  ("continuous_drop_off", .ofOption .int r.continuousDropOff)]

/-- A stop that a route calls at. -/
structure RouteStop where
  id : Int := 0
  feedVersionId : Int := 0
  routeId : Int := 0
  stopId : Int := 0
  agencyId : Int := 0
  deriving DecidableEq, Repr, Inhabited

def RouteStop.ofJson? (j : Json) : Option RouteStop := do
  let f ← j.fields?
  some {
    id := ← f.withDefault Json.readInt64 "id" 0
    feedVersionId := ← f.withDefault Json.readInt64 "feed_version_id" 0
    routeId := ← f.withDefault Json.readInt64 "route_id" 0
    stopId := ← f.withDefault Json.readInt64 "stop_id" 0
    agencyId := ← f.withDefault Json.readInt64 "agency_id" 0 }

def RouteStop.toJson (r : RouteStop) : Json := .obj [
  ("id", .int r.id),
  ("feed_version_id", .int r.feedVersionId),
  ("route_id", .int r.routeId),
  ("stop_id", .int r.stopId),
  ("agency_id", .int r.agencyId)]

/-- How often a route departs from its busiest stop. -/
structure RouteHeadway where
  id : Int := 0
  routeId : Int := 0
  selectedStopId : Int := 0
  directionId : Option Int := none
  headwaySecs : Option Int := none
  dowCategory : Option Int := none
  serviceDate : Option Date := none
  stopTripCount : Option Int := none
  departures : List Int := []
  deriving DecidableEq, Repr, Inhabited

def RouteHeadway.ofJson? (j : Json) : Option RouteHeadway := do
  let f ← j.fields?
  some {
    id := ← f.withDefault Json.readInt64 "id" 0
    routeId := ← f.withDefault Json.readInt64 "route_id" 0
    selectedStopId := ← f.withDefault Json.readInt64 "selected_stop_id" 0
    directionId := ← f.optional Json.readInt32 "direction_id"
    headwaySecs := ← f.optional Json.readInt32 "headway_secs"
    dowCategory := ← f.optional Json.readInt32 "dow_category"
    serviceDate := ← f.optional Date.ofJson? "service_date"
    stopTripCount := ← f.optional Json.readInt32 "stop_trip_count"
    departures := ← f.withDefault (Json.readList Json.readInt32) "departures" [] }

def RouteHeadway.toJson (r : RouteHeadway) : Json := .obj [
  ("id", .int r.id),
  ("route_id", .int r.routeId),
  ("selected_stop_id", .int r.selectedStopId),
  ("direction_id", .ofOption .int r.directionId),
  ("headway_secs", .ofOption .int r.headwaySecs),
  ("dow_category", .ofOption .int r.dowCategory),
  ("service_date", .ofOption Date.toJson r.serviceDate),
  ("stop_trip_count", .ofOption .int r.stopTripCount),
  ("departures", .ofList .int r.departures)]

/-- A sequence of stops that `count` trips of a route share. -/
structure RouteStopPattern where
  routeId : Int := 0
  stopPatternId : Int := 0
  directionId : Int := 0
  count : Int := 0
  deriving DecidableEq, Repr, Inhabited

def RouteStopPattern.ofJson? (j : Json) : Option RouteStopPattern := do
  let f ← j.fields?
  some {
    routeId := ← f.withDefault Json.readInt64 "route_id" 0
    stopPatternId := ← f.withDefault Json.readInt32 "stop_pattern_id" 0
    directionId := ← f.withDefault Json.readInt32 "direction_id" 0
    count := ← f.withDefault Json.readInt32 "count" 0 }

def RouteStopPattern.toJson (r : RouteStopPattern) : Json := .obj [
  ("route_id", .int r.routeId),
  ("stop_pattern_id", .int r.stopPatternId),
  ("direction_id", .int r.directionId),
  ("count", .int r.count)]

/-- The path of a route in one direction. -/
structure RouteGeometry where
  routeId : Int := 0
  directionId : Option Int := none
  generated : Bool := false
  length : Option Float := none
  geometry : Option (List Point) := none
  deriving DecidableEq, Repr, Inhabited

def RouteGeometry.ofJson? (j : Json) : Option RouteGeometry := do
  let f ← j.fields?
  some {
    routeId := ← f.withDefault Json.readInt64 "route_id" 0
    directionId := ← f.optional Json.readInt32 "direction_id"
    generated := ← f.withDefault Json.readBool "generated" false
    length := ← f.optional Json.readFloat "length"
    geometry := ← f.optional (Json.readList Point.ofJson?) "geometry" }

def RouteGeometry.toJson (r : RouteGeometry) : Json := .obj [
  ("route_id", .int r.routeId),
  ("direction_id", .ofOption .int r.directionId),
  ("generated", .bool r.generated),
  ("length", .ofOption .float r.length),
  ("geometry", .ofOption (Json.ofList Point.toJson) r.geometry)]

/-- The stops of a route, the area around them and their hull. -/
structure RouteStopBuffer where
  stopPoints : Option (List Point) := none
  stopBuffer : Option Polygon := none
  stopConvexhull : Option Polygon := none
  deriving DecidableEq, Repr, Inhabited

def RouteStopBuffer.ofJson? (j : Json) : Option RouteStopBuffer := do
  let f ← j.fields?
  some {
    stopPoints := ← f.optional (Json.readList Point.ofJson?) "stop_points"
    stopBuffer := ← f.optional Polygon.ofJson? "stop_buffer"
    stopConvexhull := ← f.optional Polygon.ofJson? "stop_convexhull" }

def RouteStopBuffer.toJson (r : RouteStopBuffer) : Json := .obj [
  ("stop_points", .ofOption (Json.ofList Point.toJson) r.stopPoints),
  ("stop_buffer", .ofOption Polygon.toJson r.stopBuffer),
  ("stop_convexhull", .ofOption Polygon.toJson r.stopConvexhull)]

end Transit
