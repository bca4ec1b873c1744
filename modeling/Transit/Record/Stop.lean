import Transit.Record.Scalar
set_option autoImplicit false

/-!
Stops, the levels and pathways of stations, and links from a stop to one in another feed.
-/

namespace Transit

/-- A stop, platform or station of one feed version. -/
structure Stop where
  id : Int := 0
  feedVersionId : Int := 0
  feedVersionSha1 : String := ""
  feedOnestopId : String := ""
  onestopId : String := ""
  stopId : String := ""
  stopName : String := ""
  stopCode : Option String := none
  stopDesc : Option String := none
  stopUrl : Option String := none
  zoneId : Option String := none
  locationType : Int := 0
  parentStation : Option Int := none
  levelId : Option Int := none
  stopTimezone : String := ""
  wheelchairBoarding : Option Int := none
  platformCode : Option String := none
  ttsStopName : Option String := none
  geometry : Point := {}
  deriving DecidableEq, Repr, Inhabited

def Stop.ofJson? (j : Json) : Option Stop := do
  let f ← j.fields?
  some {
    id := ← f.withDefault Json.readInt64 "id" 0
    feedVersionId := ← f.withDefault Json.readInt64 "feed_version_id" 0
    feedVersionSha1 := ← f.withDefault Json.readText "feed_version_sha1" ""
    feedOnestopId := ← f.withDefault Json.readText "feed_onestop_id" ""
    onestopId := ← f.withDefault Json.readText "onestop_id" ""
    stopId := ← f.withDefault Json.readText "stop_id" ""
    stopName := ← f.withDefault Json.readText "stop_name" ""
    stopCode := ← f.optional Json.readText "stop_code"
    stopDesc := ← f.optional Json.readText "stop_desc"
    stopUrl := ← f.optional Json.readText "stop_url"
    zoneId := ← f.optional Json.readText "zone_id"
    locationType := ← f.withDefault Json.readInt32 "location_type" 0
    parentStation := ← f.optional Json.readInt64 "parent_station"
    levelId := ← f.optional Json.readInt64 "level_id"
    stopTimezone := ← f.withDefault Json.readText "stop_timezone" ""
    wheelchairBoarding := ← f.optional Json.readInt32 "wheelchair_boarding"
    platformCode := ← f.optional Json.readText "platform_code"
    ttsStopName := ← f.optional Json.readText "tts_stop_name"
    geometry := ← f.withDefault Point.ofJson? "geometry" {} }

def Stop.toJson (s : Stop) : Json := .obj [
  ("id", .int s.id),
  ("feed_version_id", .int s.feedVersionId),
  ("feed_version_sha1", .str s.feedVersionSha1),
  ("feed_onestop_id", .str s.feedOnestopId),
  ("onestop_id", .str s.onestopId),
  ("stop_id", .str s.stopId),
  ("stop_name", .str s.stopName),
  ("stop_code", .ofOption .str s.stopCode),
  ("stop_desc", .ofOption .str s.stopDesc),
  ("stop_url", .ofOption .str s.stopUrl),
  ("zone_id", .ofOption .str s.zoneId),
  ("location_type", .int s.locationType),
  ("parent_station", .ofOption .int s.parentStation),
  ("level_id", .ofOption .int s.levelId),
  ("stop_timezone", .str s.stopTimezone),
  ("wheelchair_boarding", .ofOption .int s.wheelchairBoarding),
  ("platform_code", .ofOption .str s.platformCode),
  ("tts_stop_name", .ofOption .str s.ttsStopName),
  ("geometry", s.geometry.toJson)]

/-- A link from a stop to a stop of another feed. -/
structure StopExternalReference where
  id : Int := 0
  stopId : Int := 0
  targetFeedOnestopId : String := ""
  targetStopId : String := ""
  inactive : Bool := false
  deriving DecidableEq, Repr, Inhabited

def StopExternalReference.ofJson? (j : Json) : Option StopExternalReference := do
  let f ← j.fields?
  some {
    id := ← f.withDefault Json.readInt64 "id" 0
    stopId := ← f.withDefault Json.readInt64 "stop_id" 0
    targetFeedOnestopId := ← f.withDefault Json.readText "target_feed_onestop_id" ""
    targetStopId := ← f.withDefault Json.readText "target_stop_id" ""
    inactive := ← f.withDefault Json.readBool "inactive" false }

def StopExternalReference.toJson (s : StopExternalReference) : Json := .obj [
  ("id", .int s.id),
  ("stop_id", .int s.stopId),
  ("target_feed_onestop_id", .str s.targetFeedOnestopId),
  ("target_stop_id", .str s.targetStopId),
  ("inactive", .bool s.inactive)]

/-- A level of a station. -/
structure Level where
  id : Int := 0
  feedVersionId : Int := 0
  levelId : String := ""
  levelIndex : Float := 0
  levelName : Option String := none
  parentStation : Option Int := none
  deriving DecidableEq, Repr, Inhabited

def Level.ofJson? (j : Json) : Option Level := do
  let f ← j.fields?
  some {
    id := ← f.withDefault Json.readInt64 "id" 0
    feedVersionId := ← f.withDefault Json.readInt64 "feed_version_id" 0
    levelId := ← f.withDefault Json.readText "level_id" ""
    levelIndex := ← f.withDefault Json.readFloat "level_index" 0
    levelName := ← f.optional Json.readText "level_name"
    parentStation := ← f.optional Json.readInt64 "parent_station" }

def Level.toJson (l : Level) : Json := .obj [
  ("id", .int l.id),
  ("feed_version_id", .int l.feedVersionId),
  ("level_id", .str l.levelId),
  ("level_index", .float l.levelIndex),
  ("level_name", .ofOption .str l.levelName),
  ("parent_station", .ofOption .int l.parentStation)]

/-- A way between two stops of a station. -/
structure Pathway where
  id : Int := 0
  feedVersionId : Int := 0
  pathwayId : String := ""
  fromStopId : Int := 0
  toStopId : Int := 0
  pathwayMode : Int := 0
  isBidirectional : Bool := false
  length : Option Float := none
  traversalTime : Option Int := none
  stairCount : Option Int := none
  maxSlope : Option Float := none
  minWidth : Option Float := none
  signpostedAs : Option String := none
  reverseSignpostedAs : Option String := none
  deriving DecidableEq, Repr, Inhabited

def Pathway.ofJson? (j : Json) : Option Pathway := do
  let f ← j.fields?
  some {
    id := ← f.withDefault Json.readInt64 "id" 0
    feedVersionId := ← f.withDefault Json.readInt64 "feed_version_id" 0
    pathwayId := ← f.withDefault Json.readText "pathway_id" ""
    fromStopId := ← f.withDefault Json.readInt64 "from_stop_id" 0
    toStopId := ← f.withDefault Json.readInt64 "to_stop_id" 0
    pathwayMode := ← f.withDefault Json.readInt32 "pathway_mode" 0
    isBidirectional := ← f.withDefault Json.readBool "is_bidirectional" false
    length := ← f.optional Json.readFloat "length"
    traversalTime := ← f.optional Json.readInt32 "traversal_time"
    stairCount := ← f.optional Json.readInt32 "stair_count"
    maxSlope := ← f.optional Json.readFloat "max_slope"
    minWidth := ← f.optional Json.readFloat "min_width"
    signpostedAs := ← f.optional Json.readText "signposted_as"
    reverseSignpostedAs := ← f.optional Json.readText "reverse_signposted_as" }

def Pathway.toJson (p : Pathway) : Json := .obj [
  ("id", .int p.id),
  ("feed_version_id", .int p.feedVersionId),
  ("pathway_id", .str p.pathwayId),
  ("from_stop_id", .int p.fromStopId),
  ("to_stop_id", .int p.toStopId),
  ("pathway_mode", .int p.pathwayMode),
  ("is_bidirectional", .bool p.isBidirectional),
  ("length", .ofOption .float p.length),
  ("traversal_time", .ofOption .int p.traversalTime),
  ("stair_count", .ofOption .int p.stairCount),
  ("max_slope", .ofOption .float p.maxSlope),
  ("min_width", .ofOption .float p.minWidth),
  ("signposted_as", .ofOption .str p.signpostedAs),
  ("reverse_signposted_as", .ofOption .str p.reverseSignpostedAs)]

end Transit
