import Transit.Json.Writer
import Transit.Record.Feed
import Transit.Service.RelativeDate
set_option autoImplicit false

/-!
What listings can be restricted to.
-/

namespace Transit

structure AgencyFilter where
  onestopId : Option String := none
  feedVersionSha1 : Option String := none
  feedOnestopId : Option String := none
  agencyId : Option String := none
  agencyName : Option String := none
  search : Option String := none
  near : Option PointRadius := none
  bbox : Option BoundingBox := none
  adm0Iso : Option String := none
  adm1Iso : Option String := none
  adm0Name : Option String := none
  adm1Name : Option String := none
  cityName : Option String := none
  deriving DecidableEq, Repr, Inhabited

def AgencyFilter.ofJson? (j : Json) : Option AgencyFilter := do
  let f ← j.fields?
  some {
    onestopId := ← f.optional Json.readText "onestop_id"
    feedVersionSha1 := ← f.optional Json.readText "feed_version_sha1"
    feedOnestopId := ← f.optional Json.readText "feed_onestop_id"
    agencyId := ← f.optional Json.readText "agency_id"
    agencyName := ← f.optional Json.readText "agency_name"
    search := ← f.optional Json.readText "search"
    near := ← f.optional PointRadius.ofJson? "near"
    bbox := ← f.optional BoundingBox.ofJson? "bbox"
    adm0Iso := ← f.optional Json.readText "adm0_iso"
    adm1Iso := ← f.optional Json.readText "adm1_iso"
    adm0Name := ← f.optional Json.readText "adm0_name"
    adm1Name := ← f.optional Json.readText "adm1_name"
    cityName := ← f.optional Json.readText "city_name" }

def AgencyFilter.toJson (a : AgencyFilter) : Json := .obj [
  ("onestop_id", .ofOption .str a.onestopId),
  ("feed_version_sha1", .ofOption .str a.feedVersionSha1),
  ("feed_onestop_id", .ofOption .str a.feedOnestopId),
  ("agency_id", .ofOption .str a.agencyId),
  ("agency_name", .ofOption .str a.agencyName),
  ("search", .ofOption .str a.search),
  ("near", .ofOption PointRadius.toJson a.near),
  ("bbox", .ofOption BoundingBox.toJson a.bbox),
  ("adm0_iso", .ofOption .str a.adm0Iso),
  ("adm1_iso", .ofOption .str a.adm1Iso),
  ("adm0_name", .ofOption .str a.adm0Name),
  ("adm1_name", .ofOption .str a.adm1Name),
  ("city_name", .ofOption .str a.cityName)]

instance : Json.Encoded AgencyFilter := ⟨AgencyFilter.toJson⟩

structure RouteFilter where
  onestopId : Option String := none
  onestopIds : List String := []
  feedVersionSha1 : Option String := none
  feedOnestopId : Option String := none
  routeId : Option String := none
  routeType : Option Int := none
  search : Option String := none
  agencyIds : List Int := []
  near : Option PointRadius := none
  bbox : Option BoundingBox := none
  deriving DecidableEq, Repr, Inhabited

def RouteFilter.ofJson? (j : Json) : Option RouteFilter := do
  let f ← j.fields?
  some {
    onestopId := ← f.optional Json.readText "onestop_id"
    onestopIds := ← f.withDefault Json.readTexts "onestop_ids" []
    feedVersionSha1 := ← f.optional Json.readText "feed_version_sha1"
    feedOnestopId := ← f.optional Json.readText "feed_onestop_id"
    routeId := ← f.optional Json.readText "route_id"
    routeType := ← f.optional Json.readInt32 "route_type"
    search := ← f.optional Json.readText "search"
    agencyIds := ← f.withDefault (Json.readList Json.readInt64) "agency_ids" []
    near := ← f.optional PointRadius.ofJson? "near"
    bbox := ← f.optional BoundingBox.ofJson? "bbox" }

def RouteFilter.toJson (r : RouteFilter) : Json := .obj [
  ("onestop_id", .ofOption .str r.onestopId),
  ("onestop_ids", .ofTexts r.onestopIds),
  ("feed_version_sha1", .ofOption .str r.feedVersionSha1),
  ("feed_onestop_id", .ofOption .str r.feedOnestopId),
  ("route_id", .ofOption .str r.routeId),
  ("route_type", .ofOption .int r.routeType),
  ("search", .ofOption .str r.search),
  ("agency_ids", .ofList .int r.agencyIds),
  ("near", .ofOption PointRadius.toJson r.near),
  ("bbox", .ofOption BoundingBox.toJson r.bbox)]

instance : Json.Encoded RouteFilter := ⟨RouteFilter.toJson⟩

structure StopFilter where
  onestopId : Option String := none
  onestopIds : List String := []
  feedVersionSha1 : Option String := none
  feedOnestopId : Option String := none
  stopId : Option String := none
  stopCode : Option String := none
  locationType : Option Int := none
  search : Option String := none
  near : Option PointRadius := none
  bbox : Option BoundingBox := none
  agencyIds : List Int := []
  deriving DecidableEq, Repr, Inhabited

def StopFilter.ofJson? (j : Json) : Option StopFilter := do
  let f ← j.fields?
  some {
    onestopId := ← f.optional Json.readText "onestop_id"
    onestopIds := ← f.withDefault Json.readTexts "onestop_ids" []
    feedVersionSha1 := ← f.optional Json.readText "feed_version_sha1"
    feedOnestopId := ← f.optional Json.readText "feed_onestop_id"
    stopId := ← f.optional Json.readText "stop_id"
    stopCode := ← f.optional Json.readText "stop_code"
    locationType := ← f.optional Json.readInt32 "location_type"
    search := ← f.optional Json.readText "search"
    near := ← f.optional PointRadius.ofJson? "near"
    bbox := ← f.optional BoundingBox.ofJson? "bbox"
    agencyIds := ← f.withDefault (Json.readList Json.readInt64) "agency_ids" [] }

def StopFilter.toJson (s : StopFilter) : Json := .obj [
  ("onestop_id", .ofOption .str s.onestopId),
  ("onestop_ids", .ofTexts s.onestopIds),
  ("feed_version_sha1", .ofOption .str s.feedVersionSha1),
  ("feed_onestop_id", .ofOption .str s.feedOnestopId),
  ("stop_id", .ofOption .str s.stopId),
  ("stop_code", .ofOption .str s.stopCode),
  ("location_type", .ofOption .int s.locationType),
  ("search", .ofOption .str s.search),
  ("near", .ofOption PointRadius.toJson s.near),
  ("bbox", .ofOption BoundingBox.toJson s.bbox),
  ("agency_ids", .ofList .int s.agencyIds)]

instance : Json.Encoded StopFilter := ⟨StopFilter.toJson⟩

structure TripFilter where
  serviceDate : Option Date := none
  tripId : Option String := none
  stopPatternId : Option Int := none
  routeIds : List Int := []
  routeOnestopIds : List String := []
  feedVersionSha1 : Option String := none
  feedOnestopId : Option String := none
  deriving DecidableEq, Repr, Inhabited

def TripFilter.ofJson? (j : Json) : Option TripFilter := do
  let f ← j.fields?
  some {
    serviceDate := ← f.optional Date.ofJson? "service_date"
    tripId := ← f.optional Json.readText "trip_id"
    stopPatternId := ← f.optional Json.readInt32 "stop_pattern_id"
    routeIds := ← f.withDefault (Json.readList Json.readInt64) "route_ids" []
    routeOnestopIds := ← f.withDefault Json.readTexts "route_onestop_ids" []
    feedVersionSha1 := ← f.optional Json.readText "feed_version_sha1"
    feedOnestopId := ← f.optional Json.readText "feed_onestop_id" }

def TripFilter.toJson (t : TripFilter) : Json := .obj [
  ("service_date", .ofOption Date.toJson t.serviceDate),
  ("trip_id", .ofOption .str t.tripId),
  ("stop_pattern_id", .ofOption .int t.stopPatternId),
  ("route_ids", .ofList .int t.routeIds),
  ("route_onestop_ids", .ofTexts t.routeOnestopIds),
  ("feed_version_sha1", .ofOption .str t.feedVersionSha1),
  ("feed_onestop_id", .ofOption .str t.feedOnestopId)]

instance : Json.Encoded TripFilter := ⟨TripFilter.toJson⟩

structure FeedFilter where
  onestopId : Option String := none
  spec : List FeedSpec := []
  search : Option String := none
  fetchError : Option Bool := none
  tags : List (String × String) := []
  sourceUrl : Option String := none
  deriving DecidableEq, Repr, Inhabited

def FeedFilter.ofJson? (j : Json) : Option FeedFilter := do
  let f ← j.fields?
  some {
    onestopId := ← f.optional Json.readText "onestop_id"
    spec := ← f.withDefault (Json.readList FeedSpec.ofJson?) "spec" []
    search := ← f.optional Json.readText "search"
    fetchError := ← f.optional Json.readBool "fetch_error"
    tags := ← f.withDefault Json.readTextMap "tags" []
    sourceUrl := ← f.optional Json.readText "source_url" }

def FeedFilter.toJson (f : FeedFilter) : Json := .obj [
  ("onestop_id", .ofOption .str f.onestopId),
  ("spec", .ofList FeedSpec.toJson f.spec),
  ("search", .ofOption .str f.search),
  ("fetch_error", .ofOption .bool f.fetchError),
  ("tags", .ofMap .str f.tags),
  ("source_url", .ofOption .str f.sourceUrl)]

instance : Json.Encoded FeedFilter := ⟨FeedFilter.toJson⟩

structure FeedVersionFilter where
  sha1 : Option String := none
  feedOnestopId : Option String := none
  feedIds : List Int := []
  file : Option String := none
  covers : Option Date := none
  deriving DecidableEq, Repr, Inhabited

def FeedVersionFilter.ofJson? (j : Json) : Option FeedVersionFilter := do
  let f ← j.fields?
  some {
    sha1 := ← f.optional Json.readText "sha1"
    feedOnestopId := ← f.optional Json.readText "feed_onestop_id"
    feedIds := ← f.withDefault (Json.readList Json.readInt64) "feed_ids" []
    file := ← f.optional Json.readText "file"
    covers := ← f.optional Date.ofJson? "covers" }

def FeedVersionFilter.toJson (f : FeedVersionFilter) : Json := .obj [
  ("sha1", .ofOption .str f.sha1),
  ("feed_onestop_id", .ofOption .str f.feedOnestopId),
  ("feed_ids", .ofList .int f.feedIds),
  ("file", .ofOption .str f.file),
  ("covers", .ofOption Date.toJson f.covers)]

instance : Json.Encoded FeedVersionFilter := ⟨FeedVersionFilter.toJson⟩

structure ServiceLevelFilter where
  startDate : Option Date := none
  endDate : Option Date := none
  deriving DecidableEq, Repr, Inhabited

def ServiceLevelFilter.ofJson? (j : Json) : Option ServiceLevelFilter := do
  let f ← j.fields?
  some {
    startDate := ← f.optional Date.ofJson? "start_date"
    endDate := ← f.optional Date.ofJson? "end_date" }

def ServiceLevelFilter.toJson (s : ServiceLevelFilter) : Json := .obj [
  ("start_date", .ofOption Date.toJson s.startDate),
  ("end_date", .ofOption Date.toJson s.endDate)]

instance : Json.Encoded ServiceLevelFilter := ⟨ServiceLevelFilter.toJson⟩

structure FeedFetchFilter where
  success : Option Bool := none
  deriving DecidableEq, Repr, Inhabited

def FeedFetchFilter.ofJson? (j : Json) : Option FeedFetchFilter := do
  let f ← j.fields?
  some {
    success := ← f.optional Json.readBool "success" }

def FeedFetchFilter.toJson (f : FeedFetchFilter) : Json := .obj [
  ("success", .ofOption .bool f.success)]

instance : Json.Encoded FeedFetchFilter := ⟨FeedFetchFilter.toJson⟩

structure OperatorFilter where
  onestopId : Option String := none
  feedOnestopId : Option String := none
  agencyId : Option String := none
  search : Option String := none
  merged : Option Bool := none
  adm0Iso : Option String := none
  adm1Iso : Option String := none
  adm0Name : Option String := none
  adm1Name : Option String := none
  cityName : Option String := none
  tags : List (String × String) := []
  deriving DecidableEq, Repr, Inhabited

def OperatorFilter.ofJson? (j : Json) : Option OperatorFilter := do
  let f ← j.fields?
  some {
    onestopId := ← f.optional Json.readText "onestop_id"
    feedOnestopId := ← f.optional Json.readText "feed_onestop_id"
    agencyId := ← f.optional Json.readText "agency_id"
    search := ← f.optional Json.readText "search"
    merged := ← f.optional Json.readBool "merged"
    adm0Iso := ← f.optional Json.readText "adm0_iso"
    adm1Iso := ← f.optional Json.readText "adm1_iso"
    adm0Name := ← f.optional Json.readText "adm0_name"
    adm1Name := ← f.optional Json.readText "adm1_name"
    cityName := ← f.optional Json.readText "city_name"
    tags := ← f.withDefault Json.readTextMap "tags" [] }

def OperatorFilter.toJson (o : OperatorFilter) : Json := .obj [
  ("onestop_id", .ofOption .str o.onestopId),
  ("feed_onestop_id", .ofOption .str o.feedOnestopId),
  ("agency_id", .ofOption .str o.agencyId),
  ("search", .ofOption .str o.search),
  ("merged", .ofOption .bool o.merged),
  ("adm0_iso", .ofOption .str o.adm0Iso),
  ("adm1_iso", .ofOption .str o.adm1Iso),
  ("adm0_name", .ofOption .str o.adm0Name),
  ("adm1_name", .ofOption .str o.adm1Name),
  ("city_name", .ofOption .str o.cityName),
  ("tags", .ofMap .str o.tags)]

instance : Json.Encoded OperatorFilter := ⟨OperatorFilter.toJson⟩

structure PlaceFilter where
  minRank : Option Float := none
  adm0Name : Option String := none
  adm1Name : Option String := none
  cityName : Option String := none
  deriving DecidableEq, Repr, Inhabited

def PlaceFilter.ofJson? (j : Json) : Option PlaceFilter := do
  let f ← j.fields?
  some {
    minRank := ← f.optional Json.readFloat "min_rank"
    adm0Name := ← f.optional Json.readText "adm0_name"
    adm1Name := ← f.optional Json.readText "adm1_name"
    cityName := ← f.optional Json.readText "city_name" }

def PlaceFilter.toJson (p : PlaceFilter) : Json := .obj [
  ("min_rank", .ofOption .float p.minRank),
  ("adm0_name", .ofOption .str p.adm0Name),
  ("adm1_name", .ofOption .str p.adm1Name),
  ("city_name", .ofOption .str p.cityName)]

instance : Json.Encoded PlaceFilter := ⟨PlaceFilter.toJson⟩

structure AgencyPlaceFilter where
  minRank : Option Float := none
  deriving DecidableEq, Repr, Inhabited

def AgencyPlaceFilter.ofJson? (j : Json) : Option AgencyPlaceFilter := do
  let f ← j.fields?
  some {
    minRank := ← f.optional Json.readFloat "min_rank" }

def AgencyPlaceFilter.toJson (a : AgencyPlaceFilter) : Json := .obj [
  ("min_rank", .ofOption .float a.minRank)]

instance : Json.Encoded AgencyPlaceFilter := ⟨AgencyPlaceFilter.toJson⟩

structure CalendarDateFilter where
  date : Option Date := none
  exceptionType : Option Int := none
  deriving DecidableEq, Repr, Inhabited

def CalendarDateFilter.ofJson? (j : Json) : Option CalendarDateFilter := do
  let f ← j.fields?
  some {
    date := ← f.optional Date.ofJson? "date"
    exceptionType := ← f.optional Json.readInt32 "exception_type" }

def CalendarDateFilter.toJson (c : CalendarDateFilter) : Json := .obj [
  ("date", .ofOption Date.toJson c.date),
  ("exception_type", .ofOption .int c.exceptionType)]

instance : Json.Encoded CalendarDateFilter := ⟨CalendarDateFilter.toJson⟩

structure PathwayFilter where
  pathwayMode : Option Int := none
  deriving DecidableEq, Repr, Inhabited

def PathwayFilter.ofJson? (j : Json) : Option PathwayFilter := do
  let f ← j.fields?
  some {
    pathwayMode := ← f.optional Json.readInt32 "pathway_mode" }

def PathwayFilter.toJson (p : PathwayFilter) : Json := .obj [
  ("pathway_mode", .ofOption .int p.pathwayMode)]

instance : Json.Encoded PathwayFilter := ⟨PathwayFilter.toJson⟩

structure StopTimeFilter where
  serviceDate : Option Date := none
  date : Option Date := none
  startTime : Option Int := none
  endTime : Option Int := none
  start : Option WideTime := none
  stop : Option WideTime := none
  next : Option Int := none
  relativeDate : Option RelativeDate := none
  useServiceWindow : Option Bool := none
  excludeFirst : Option Bool := none
  excludeLast : Option Bool := none
  routeOnestopIds : List String := []
  deriving DecidableEq, Repr, Inhabited

def StopTimeFilter.ofJson? (j : Json) : Option StopTimeFilter := do
  let f ← j.fields?
  some {
    serviceDate := ← f.optional Date.ofJson? "service_date"
    date := ← f.optional Date.ofJson? "date"
    startTime := ← f.optional Json.readInt32 "start_time"
    endTime := ← f.optional Json.readInt32 "end_time"
    start := ← f.optional WideTime.ofJson? "start"
    stop := ← f.optional WideTime.ofJson? "end"
    next := ← f.optional Json.readInt32 "next"
    relativeDate := ← f.optional RelativeDate.ofJson? "relative_date"
    useServiceWindow := ← f.optional Json.readBool "use_service_window"
    excludeFirst := ← f.optional Json.readBool "exclude_first"
    excludeLast := ← f.optional Json.readBool "exclude_last"
    routeOnestopIds := ← f.withDefault Json.readTexts "route_onestop_ids" [] }

def StopTimeFilter.toJson (s : StopTimeFilter) : Json := .obj [
  ("service_date", .ofOption Date.toJson s.serviceDate),
  ("date", .ofOption Date.toJson s.date),
  ("start_time", .ofOption .int s.startTime),
  ("end_time", .ofOption .int s.endTime),
  ("start", .ofOption WideTime.toJson s.start),
  ("end", .ofOption WideTime.toJson s.stop),
  ("next", .ofOption .int s.next),
  ("relative_date", .ofOption RelativeDate.toJson s.relativeDate),
  ("use_service_window", .ofOption .bool s.useServiceWindow),
  ("exclude_first", .ofOption .bool s.excludeFirst),
  ("exclude_last", .ofOption .bool s.excludeLast),
  ("route_onestop_ids", .ofTexts s.routeOnestopIds)]

instance : Json.Encoded StopTimeFilter := ⟨StopTimeFilter.toJson⟩

structure TripStopTimeFilter where
  start : Option WideTime := none
  stop : Option WideTime := none
  deriving DecidableEq, Repr, Inhabited

def TripStopTimeFilter.ofJson? (j : Json) : Option TripStopTimeFilter := do
  let f ← j.fields?
  some {
    start := ← f.optional WideTime.ofJson? "start"
    stop := ← f.optional WideTime.ofJson? "end" }

def TripStopTimeFilter.toJson (t : TripStopTimeFilter) : Json := .obj [
  ("start", .ofOption WideTime.toJson t.start),
  ("end", .ofOption WideTime.toJson t.stop)]

instance : Json.Encoded TripStopTimeFilter := ⟨TripStopTimeFilter.toJson⟩

structure VehiclePositionFilter where
  feedOnestopIds : List String := []
  routeId : Option String := none
  tripId : Option String := none
  bbox : Option BoundingBox := none
  near : Option PointRadius := none
  deriving DecidableEq, Repr, Inhabited

def VehiclePositionFilter.ofJson? (j : Json) : Option VehiclePositionFilter := do
  let f ← j.fields?
  some {
    feedOnestopIds := ← f.withDefault Json.readTexts "feed_onestop_ids" []
    routeId := ← f.optional Json.readText "route_id"
    tripId := ← f.optional Json.readText "trip_id"
    bbox := ← f.optional BoundingBox.ofJson? "bbox"
    near := ← f.optional PointRadius.ofJson? "near" }

def VehiclePositionFilter.toJson (v : VehiclePositionFilter) : Json := .obj [
  ("feed_onestop_ids", .ofTexts v.feedOnestopIds),
  ("route_id", .ofOption .str v.routeId),
  ("trip_id", .ofOption .str v.tripId),
  ("bbox", .ofOption BoundingBox.toJson v.bbox),
  ("near", .ofOption PointRadius.toJson v.near)]

instance : Json.Encoded VehiclePositionFilter := ⟨VehiclePositionFilter.toJson⟩

structure CensusDatasetFilter where
  name : Option String := none
  search : Option String := none
  deriving DecidableEq, Repr, Inhabited

def CensusDatasetFilter.ofJson? (j : Json) : Option CensusDatasetFilter := do
  let f ← j.fields?
  some {
    name := ← f.optional Json.readText "name"
    search := ← f.optional Json.readText "search" }

def CensusDatasetFilter.toJson (c : CensusDatasetFilter) : Json := .obj [
  ("name", .ofOption .str c.name),
  ("search", .ofOption .str c.search)]

instance : Json.Encoded CensusDatasetFilter := ⟨CensusDatasetFilter.toJson⟩

structure CensusGeographyFilter where
  layer : Option String := none
  radius : Option Float := none
  search : Option String := none
  deriving DecidableEq, Repr, Inhabited

def CensusGeographyFilter.ofJson? (j : Json) : Option CensusGeographyFilter := do
  let f ← j.fields?
  some {
    layer := ← f.optional Json.readText "layer"
    radius := ← f.optional Json.readFloat "radius"
    search := ← f.optional Json.readText "search" }

def CensusGeographyFilter.toJson (c : CensusGeographyFilter) : Json := .obj [
  ("layer", .ofOption .str c.layer),
  ("radius", .ofOption .float c.radius),
  ("search", .ofOption .str c.search)]

instance : Json.Encoded CensusGeographyFilter := ⟨CensusGeographyFilter.toJson⟩

structure CensusSourceFilter where
  name : Option String := none
  deriving DecidableEq, Repr, Inhabited

def CensusSourceFilter.ofJson? (j : Json) : Option CensusSourceFilter := do
  let f ← j.fields?
  some {
    name := ← f.optional Json.readText "name" }

def CensusSourceFilter.toJson (c : CensusSourceFilter) : Json := .obj [
  ("name", .ofOption .str c.name)]

instance : Json.Encoded CensusSourceFilter := ⟨CensusSourceFilter.toJson⟩

end Transit
