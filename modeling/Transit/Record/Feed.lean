import Transit.Record.Scalar
set_option autoImplicit false

/-!
Feeds, their versions, and what is recorded about fetching and importing them.
-/

namespace Transit

/-- What kind of data a feed carries. -/
inductive FeedSpec
  | gtfs
  | gtfsRt
  | gbfs
  | mds
  deriving DecidableEq, Repr, Inhabited

def FeedSpec.name : FeedSpec → String
  | .gtfs => "GTFS"
  | .gtfsRt => "GTFS_RT"
  | .gbfs => "GBFS"
  | .mds => "MDS"

def FeedSpec.all : List FeedSpec := [.gtfs, .gtfsRt, .gbfs, .mds]

def FeedSpec.ofJson? (j : Json) : Option FeedSpec := do
  let name ← Json.readText j
  FeedSpec.all.find? (·.name == name)

def FeedSpec.toJson (s : FeedSpec) : Json := .str s.name

/-- Where the files of a feed are found. -/
structure FeedUrls where
  staticCurrent : Option String := none
  staticHistoric : List String := []
  realtimeTripUpdates : Option String := none
  realtimeAlerts : Option String := none
  realtimeVehiclePositions : Option String := none
  gbfsAutoDiscovery : Option String := none
  deriving DecidableEq, Repr, Inhabited

def FeedUrls.ofJson? (j : Json) : Option FeedUrls := do
  let f ← j.fields?
  some {
    staticCurrent := ← f.optional Json.readText "static_current"
    staticHistoric := ← f.withDefault Json.readTexts "static_historic" []
    realtimeTripUpdates := ← f.optional Json.readText "realtime_trip_updates"
    realtimeAlerts := ← f.optional Json.readText "realtime_alerts"
    realtimeVehiclePositions := ← f.optional Json.readText "realtime_vehicle_positions"
    gbfsAutoDiscovery := ← f.optional Json.readText "gbfs_auto_discovery" }

def FeedUrls.toJson (f : FeedUrls) : Json := .obj [
  ("static_current", .ofOption .str f.staticCurrent),
  ("static_historic", .ofTexts f.staticHistoric),
  ("realtime_trip_updates", .ofOption .str f.realtimeTripUpdates),
  ("realtime_alerts", .ofOption .str f.realtimeAlerts),
  ("realtime_vehicle_positions", .ofOption .str f.realtimeVehiclePositions),
  ("gbfs_auto_discovery", .ofOption .str f.gbfsAutoDiscovery)]

/-- The terms under which a feed is offered. -/
structure FeedLicense where
  spdxIdentifier : Option String := none
  url : Option String := none
  useWithoutAttribution : Option String := none
  createDerivedProduct : Option String := none
  redistributionAllowed : Option String := none
  commercialUseAllowed : Option String := none
  shareAlikeOptional : Option String := none
  attributionText : Option String := none
  deriving DecidableEq, Repr, Inhabited

def FeedLicense.ofJson? (j : Json) : Option FeedLicense := do
  let f ← j.fields?
  some {
    spdxIdentifier := ← f.optional Json.readText "spdx_identifier"
    url := ← f.optional Json.readText "url"
    useWithoutAttribution := ← f.optional Json.readText "use_without_attribution"
    createDerivedProduct := ← f.optional Json.readText "create_derived_product"
    redistributionAllowed := ← f.optional Json.readText "redistribution_allowed"
    commercialUseAllowed := ← f.optional Json.readText "commercial_use_allowed"
    shareAlikeOptional := ← f.optional Json.readText "share_alike_optional"
    attributionText := ← f.optional Json.readText "attribution_text" }

def FeedLicense.toJson (f : FeedLicense) : Json := .obj [
  ("spdx_identifier", .ofOption .str f.spdxIdentifier),
  ("url", .ofOption .str f.url),
  ("use_without_attribution", .ofOption .str f.useWithoutAttribution),
  ("create_derived_product", .ofOption .str f.createDerivedProduct),
  ("redistribution_allowed", .ofOption .str f.redistributionAllowed),
  ("commercial_use_allowed", .ofOption .str f.commercialUseAllowed),
  ("share_alike_optional", .ofOption .str f.shareAlikeOptional),
  ("attribution_text", .ofOption .str f.attributionText)]

/-- How a feed asks for credentials. -/
structure FeedAuthorization where
  kind : Option String := none
  paramName : Option String := none
  infoUrl : Option String := none
  deriving DecidableEq, Repr, Inhabited

def FeedAuthorization.ofJson? (j : Json) : Option FeedAuthorization := do
  let f ← j.fields?
  some {
    kind := ← f.optional Json.readText "type"
    paramName := ← f.optional Json.readText "param_name"
    infoUrl := ← f.optional Json.readText "info_url" }

def FeedAuthorization.toJson (f : FeedAuthorization) : Json := .obj [
  ("type", .ofOption .str f.kind),
  ("param_name", .ofOption .str f.paramName),
  ("info_url", .ofOption .str f.infoUrl)]

/-- A published feed. -/
structure Feed where
  id : Int := 0
  onestopId : String := ""
  name : Option String := none
  spec : FeedSpec := .gtfs
  urls : FeedUrls := {}
  license : FeedLicense := {}
  authorization : FeedAuthorization := {}
  languages : List String := []
  tags : List (String × String) := []
  associatedFeeds : List String := []
  deriving DecidableEq, Repr, Inhabited

def Feed.ofJson? (j : Json) : Option Feed := do
  let f ← j.fields?
  some {
    id := ← f.withDefault Json.readInt64 "id" 0
    onestopId := ← f.withDefault Json.readText "onestop_id" ""
    name := ← f.optional Json.readText "name"
    spec := ← f.withDefault FeedSpec.ofJson? "spec" .gtfs
    urls := ← f.withDefault FeedUrls.ofJson? "urls" {}
    license := ← f.withDefault FeedLicense.ofJson? "license" {}
    authorization := ← f.withDefault FeedAuthorization.ofJson? "authorization" {}
    languages := ← f.withDefault Json.readTexts "languages" []
    tags := ← f.withDefault Json.readTextMap "tags" []
    associatedFeeds := ← f.withDefault Json.readTexts "associated_feeds" [] }

def Feed.toJson (f : Feed) : Json := .obj [
  ("id", .int f.id),
  ("onestop_id", .str f.onestopId),
  ("name", .ofOption .str f.name),
  ("spec", f.spec.toJson),
  ("urls", f.urls.toJson),
  ("license", f.license.toJson),
  ("authorization", f.authorization.toJson),
  ("languages", .ofTexts f.languages),
  ("tags", .ofMap .str f.tags),
  ("associated_feeds", .ofTexts f.associatedFeeds)]

/-- What is current for a feed: the version in use, and whether it is public. -/
structure FeedState where
  id : Int := 0
  feedId : Int := 0
  feedVersionId : Option Int := none
  isPublic : Bool := false
  deriving DecidableEq, Repr, Inhabited

def FeedState.ofJson? (j : Json) : Option FeedState := do
  let f ← j.fields?
  some {
    id := ← f.withDefault Json.readInt64 "id" 0
    feedId := ← f.withDefault Json.readInt64 "feed_id" 0
    feedVersionId := ← f.optional Json.readInt64 "feed_version_id"
    isPublic := ← f.withDefault Json.readBool "public" false }

def FeedState.toJson (f : FeedState) : Json := .obj [
  ("id", .int f.id),
  ("feed_id", .int f.feedId),
  ("feed_version_id", .ofOption .int f.feedVersionId),
  ("public", .bool f.isPublic)]

/-- One attempt to fetch a feed. -/
structure FeedFetch where
  id : Int := 0
  feedId : Int := 0
  urlType : String := ""
  url : String := ""
  fetchedAt : Instant := {}
  success : Bool := false
  fetchError : Option String := none
  responseCode : Option Int := none
  responseSha1 : Option String := none
  deriving DecidableEq, Repr, Inhabited

def FeedFetch.ofJson? (j : Json) : Option FeedFetch := do
  let f ← j.fields?
  some {
    id := ← f.withDefault Json.readInt64 "id" 0
    feedId := ← f.withDefault Json.readInt64 "feed_id" 0
    urlType := ← f.withDefault Json.readText "url_type" ""
    url := ← f.withDefault Json.readText "url" ""
    fetchedAt := ← f.withDefault Instant.ofJson? "fetched_at" {}
    success := ← f.withDefault Json.readBool "success" false
    fetchError := ← f.optional Json.readText "fetch_error"
    responseCode := ← f.optional Json.readInt32 "response_code"
    responseSha1 := ← f.optional Json.readText "response_sha1" }

def FeedFetch.toJson (f : FeedFetch) : Json := .obj [
  ("id", .int f.id),
  ("feed_id", .int f.feedId),
  ("url_type", .str f.urlType),
  ("url", .str f.url),
  ("fetched_at", f.fetchedAt.toJson),
  ("success", .bool f.success),
  ("fetch_error", .ofOption .str f.fetchError),
  ("response_code", .ofOption .int f.responseCode),
  ("response_sha1", .ofOption .str f.responseSha1)]

/-- One fetched file of a feed. -/
structure FeedVersion where
  id : Int := 0
  feedId : Int := 0
  sha1 : String := ""
  sha1Dir : Option String := none
  fetchedAt : Instant := {}
  earliestCalendarDate : Option Date := none
  latestCalendarDate : Option Date := none
  name : Option String := none
  description : Option String := none
  url : String := ""
  file : Option String := none
  geometry : Option Polygon := none
  deriving DecidableEq, Repr, Inhabited

def FeedVersion.ofJson? (j : Json) : Option FeedVersion := do
  let f ← j.fields?
  some {
    id := ← f.withDefault Json.readInt64 "id" 0
    feedId := ← f.withDefault Json.readInt64 "feed_id" 0
    sha1 := ← f.withDefault Json.readText "sha1" ""
    sha1Dir := ← f.optional Json.readText "sha1_dir"
    fetchedAt := ← f.withDefault Instant.ofJson? "fetched_at" {}
    earliestCalendarDate := ← f.optional Date.ofJson? "earliest_calendar_date"
    latestCalendarDate := ← f.optional Date.ofJson? "latest_calendar_date"
    name := ← f.optional Json.readText "name"
    description := ← f.optional Json.readText "description"
    url := ← f.withDefault Json.readText "url" ""
    file := ← f.optional Json.readText "file"
    geometry := ← f.optional Polygon.ofJson? "geometry" }

def FeedVersion.toJson (f : FeedVersion) : Json := .obj [
  ("id", .int f.id),
  ("feed_id", .int f.feedId),
  ("sha1", .str f.sha1),
  ("sha1_dir", .ofOption .str f.sha1Dir),
  ("fetched_at", f.fetchedAt.toJson),
  ("earliest_calendar_date", .ofOption Date.toJson f.earliestCalendarDate),
  ("latest_calendar_date", .ofOption Date.toJson f.latestCalendarDate),
  ("name", .ofOption .str f.name),
  ("description", .ofOption .str f.description),
  ("url", .str f.url),
  ("file", .ofOption .str f.file),
  ("geometry", .ofOption Polygon.toJson f.geometry)]

/-- The import of a feed version into the warehouse. -/
structure FeedVersionImport where
  id : Int := 0
  feedVersionId : Int := 0
  success : Bool := false
  inProgress : Bool := false
  exceptionLog : Option String := none
  entityCount : List (String × Int) := []
  warningCount : List (String × Int) := []
  deriving DecidableEq, Repr, Inhabited

def FeedVersionImport.ofJson? (j : Json) : Option FeedVersionImport := do
  let f ← j.fields?
  some {
    id := ← f.withDefault Json.readInt64 "id" 0
    feedVersionId := ← f.withDefault Json.readInt64 "feed_version_id" 0
    success := ← f.withDefault Json.readBool "success" false
    inProgress := ← f.withDefault Json.readBool "in_progress" false
    exceptionLog := ← f.optional Json.readText "exception_log"
    entityCount := ← f.withDefault (Json.readMap Json.readInt64) "entity_count" []
    warningCount := ← f.withDefault (Json.readMap Json.readInt64) "warning_count" [] }

def FeedVersionImport.toJson (f : FeedVersionImport) : Json := .obj [
  ("id", .int f.id),
  ("feed_version_id", .int f.feedVersionId),
  ("success", .bool f.success),
  ("in_progress", .bool f.inProgress),
  ("exception_log", .ofOption .str f.exceptionLog),
  ("entity_count", .ofMap .int f.entityCount),
  ("warning_count", .ofMap .int f.warningCount)]

/-- Seconds of scheduled service on each day of a week. -/
structure ServiceLevel where
  id : Int := 0
  feedVersionId : Int := 0
  startDate : Date := {}
  endDate : Date := {}
  monday : Int := 0
  tuesday : Int := 0
  wednesday : Int := 0
  thursday : Int := 0
  friday : Int := 0
  saturday : Int := 0
  sunday : Int := 0
  deriving DecidableEq, Repr, Inhabited

def ServiceLevel.ofJson? (j : Json) : Option ServiceLevel := do
  let f ← j.fields?
  some {
    id := ← f.withDefault Json.readInt64 "id" 0
    feedVersionId := ← f.withDefault Json.readInt64 "feed_version_id" 0
    startDate := ← f.withDefault Date.ofJson? "start_date" {}
    endDate := ← f.withDefault Date.ofJson? "end_date" {}
    monday := ← f.withDefault Json.readInt64 "monday" 0
    tuesday := ← f.withDefault Json.readInt64 "tuesday" 0
    wednesday := ← f.withDefault Json.readInt64 "wednesday" 0
    thursday := ← f.withDefault Json.readInt64 "thursday" 0
    friday := ← f.withDefault Json.readInt64 "friday" 0
    saturday := ← f.withDefault Json.readInt64 "saturday" 0
    sunday := ← f.withDefault Json.readInt64 "sunday" 0 }

def ServiceLevel.toJson (s : ServiceLevel) : Json := .obj [
  ("id", .int s.id),
  ("feed_version_id", .int s.feedVersionId),
  ("start_date", s.startDate.toJson),
  ("end_date", s.endDate.toJson),
  ("monday", .int s.monday),
  ("tuesday", .int s.tuesday),
  ("wednesday", .int s.wednesday),
  ("thursday", .int s.thursday),
  ("friday", .int s.friday),
  ("saturday", .int s.saturday),
  ("sunday", .int s.sunday)]

/-- The dates over which a feed version is meant to be used. -/
structure ServiceWindowRecord where
  id : Int := 0
  feedVersionId : Int := 0
  feedStartDate : Option Date := none
  feedEndDate : Option Date := none
  earliestCalendarDate : Option Date := none
  latestCalendarDate : Option Date := none
  fallbackWeek : Option Date := none
  defaultTimezone : Option String := none
  deriving DecidableEq, Repr, Inhabited

def ServiceWindowRecord.ofJson? (j : Json) : Option ServiceWindowRecord := do
  let f ← j.fields?
  some {
    id := ← f.withDefault Json.readInt64 "id" 0
    feedVersionId := ← f.withDefault Json.readInt64 "feed_version_id" 0
    feedStartDate := ← f.optional Date.ofJson? "feed_start_date"
    feedEndDate := ← f.optional Date.ofJson? "feed_end_date"
    earliestCalendarDate := ← f.optional Date.ofJson? "earliest_calendar_date"
    latestCalendarDate := ← f.optional Date.ofJson? "latest_calendar_date"
    fallbackWeek := ← f.optional Date.ofJson? "fallback_week"
    defaultTimezone := ← f.optional Json.readText "default_timezone" }

def ServiceWindowRecord.toJson (s : ServiceWindowRecord) : Json := .obj [
  ("id", .int s.id),
  ("feed_version_id", .int s.feedVersionId),
  ("feed_start_date", .ofOption Date.toJson s.feedStartDate),
  ("feed_end_date", .ofOption Date.toJson s.feedEndDate),
  ("earliest_calendar_date", .ofOption Date.toJson s.earliestCalendarDate),
  ("latest_calendar_date", .ofOption Date.toJson s.latestCalendarDate),
  ("fallback_week", .ofOption Date.toJson s.fallbackWeek),
  ("default_timezone", .ofOption .str s.defaultTimezone)]

/-- What a feed says about itself. -/
structure FeedInfo where
  id : Int := 0
  feedVersionId : Int := 0
  feedPublisherName : String := ""
  feedPublisherUrl : String := ""
  feedLang : String := ""
  defaultLang : Option String := none
  feedVersion : Option String := none
  feedStartDate : Option Date := none
  feedEndDate : Option Date := none
  feedContactEmail : Option String := none
  feedContactUrl : Option String := none
  deriving DecidableEq, Repr, Inhabited

def FeedInfo.ofJson? (j : Json) : Option FeedInfo := do
  let f ← j.fields?
  some {
    id := ← f.withDefault Json.readInt64 "id" 0
    feedVersionId := ← f.withDefault Json.readInt64 "feed_version_id" 0
    feedPublisherName := ← f.withDefault Json.readText "feed_publisher_name" ""
    feedPublisherUrl := ← f.withDefault Json.readText "feed_publisher_url" ""
    feedLang := ← f.withDefault Json.readText "feed_lang" ""
    defaultLang := ← f.optional Json.readText "default_lang"
    feedVersion := ← f.optional Json.readText "feed_version"
    feedStartDate := ← f.optional Date.ofJson? "feed_start_date"
    feedEndDate := ← f.optional Date.ofJson? "feed_end_date"
    feedContactEmail := ← f.optional Json.readText "feed_contact_email"
    feedContactUrl := ← f.optional Json.readText "feed_contact_url" }

def FeedInfo.toJson (f : FeedInfo) : Json := .obj [
  ("id", .int f.id),
  ("feed_version_id", .int f.feedVersionId),
  ("feed_publisher_name", .str f.feedPublisherName),
  ("feed_publisher_url", .str f.feedPublisherUrl),
  ("feed_lang", .str f.feedLang),
  ("default_lang", .ofOption .str f.defaultLang),
  ("feed_version", .ofOption .str f.feedVersion),
  ("feed_start_date", .ofOption Date.toJson f.feedStartDate),
  ("feed_end_date", .ofOption Date.toJson f.feedEndDate),
  ("feed_contact_email", .ofOption .str f.feedContactEmail),
  ("feed_contact_url", .ofOption .str f.feedContactUrl)]

end Transit
