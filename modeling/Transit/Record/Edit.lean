import Transit.Record.Feed
set_option autoImplicit false

/-!
The input of edits, and what commands answer.
-/

namespace Transit

/-- The fields to set on a stop. -/
structure StopSetInput where
  id : Option Int := none
  feedVersionId : Option Int := none
  stopId : Option String := none
  stopName : Option String := none
  stopCode : Option String := none
  stopDesc : Option String := none
  locationType : Option Int := none
  parentStation : Option Int := none
  levelId : Option Int := none
  stopTimezone : Option String := none
  wheelchairBoarding : Option Int := none
  platformCode : Option String := none
  geometry : Option Point := none
  deriving DecidableEq, Repr, Inhabited

def StopSetInput.ofJson? (j : Json) : Option StopSetInput := do
  let f ← j.fields?
  some {
    id := ← f.optional Json.readInt64 "id"
    feedVersionId := ← f.optional Json.readInt64 "feed_version_id"
    stopId := ← f.optional Json.readText "stop_id"
    stopName := ← f.optional Json.readText "stop_name"
    stopCode := ← f.optional Json.readText "stop_code"
    stopDesc := ← f.optional Json.readText "stop_desc"
    locationType := ← f.optional Json.readInt32 "location_type"
    parentStation := ← f.optional Json.readInt64 "parent_station"
    levelId := ← f.optional Json.readInt64 "level_id"
    stopTimezone := ← f.optional Json.readText "stop_timezone"
    wheelchairBoarding := ← f.optional Json.readInt32 "wheelchair_boarding"
    platformCode := ← f.optional Json.readText "platform_code"
    geometry := ← f.optional Point.ofJson? "geometry" }

def StopSetInput.toJson (s : StopSetInput) : Json := .obj [
  ("id", .ofOption .int s.id),
  ("feed_version_id", .ofOption .int s.feedVersionId),
  ("stop_id", .ofOption .str s.stopId),
  ("stop_name", .ofOption .str s.stopName),
  ("stop_code", .ofOption .str s.stopCode),
  ("stop_desc", .ofOption .str s.stopDesc),
  ("location_type", .ofOption .int s.locationType),
  ("parent_station", .ofOption .int s.parentStation),
  ("level_id", .ofOption .int s.levelId),
  ("stop_timezone", .ofOption .str s.stopTimezone),
  ("wheelchair_boarding", .ofOption .int s.wheelchairBoarding),
  ("platform_code", .ofOption .str s.platformCode),
  ("geometry", .ofOption Point.toJson s.geometry)]

/-- The fields to set on a level. -/
structure LevelSetInput where
  id : Option Int := none
  feedVersionId : Option Int := none
  levelId : Option String := none
  levelName : Option String := none
  levelIndex : Option Float := none
  parentStation : Option Int := none
  deriving DecidableEq, Repr, Inhabited

def LevelSetInput.ofJson? (j : Json) : Option LevelSetInput := do
  let f ← j.fields?
  some {
    id := ← f.optional Json.readInt64 "id"
    feedVersionId := ← f.optional Json.readInt64 "feed_version_id"
    levelId := ← f.optional Json.readText "level_id"
    levelName := ← f.optional Json.readText "level_name"
    levelIndex := ← f.optional Json.readFloat "level_index"
    parentStation := ← f.optional Json.readInt64 "parent_station" }

def LevelSetInput.toJson (l : LevelSetInput) : Json := .obj [
  ("id", .ofOption .int l.id),
  ("feed_version_id", .ofOption .int l.feedVersionId),
  ("level_id", .ofOption .str l.levelId),
  ("level_name", .ofOption .str l.levelName),
  ("level_index", .ofOption .float l.levelIndex),
  ("parent_station", .ofOption .int l.parentStation)]

/-- The fields to set on a pathway. -/
structure PathwaySetInput where
  id : Option Int := none
  feedVersionId : Option Int := none
  pathwayId : Option String := none
  fromStopId : Option Int := none
  toStopId : Option Int := none
  pathwayMode : Option Int := none
  isBidirectional : Option Bool := none
  length : Option Float := none
  traversalTime : Option Int := none
  deriving DecidableEq, Repr, Inhabited

def PathwaySetInput.ofJson? (j : Json) : Option PathwaySetInput := do
  let f ← j.fields?
  some {
    id := ← f.optional Json.readInt64 "id"
    feedVersionId := ← f.optional Json.readInt64 "feed_version_id"
    pathwayId := ← f.optional Json.readText "pathway_id"
    fromStopId := ← f.optional Json.readInt64 "from_stop_id"
    toStopId := ← f.optional Json.readInt64 "to_stop_id"
    pathwayMode := ← f.optional Json.readInt32 "pathway_mode"
    isBidirectional := ← f.optional Json.readBool "is_bidirectional"
    length := ← f.optional Json.readFloat "length"
    traversalTime := ← f.optional Json.readInt32 "traversal_time" }

def PathwaySetInput.toJson (p : PathwaySetInput) : Json := .obj [
  ("id", .ofOption .int p.id),
  ("feed_version_id", .ofOption .int p.feedVersionId),
  ("pathway_id", .ofOption .str p.pathwayId),
  ("from_stop_id", .ofOption .int p.fromStopId),
  ("to_stop_id", .ofOption .int p.toStopId),
  ("pathway_mode", .ofOption .int p.pathwayMode),
  ("is_bidirectional", .ofOption .bool p.isBidirectional),
  ("length", .ofOption .float p.length),
  ("traversal_time", .ofOption .int p.traversalTime)]

/-- The id of a deleted row. -/
structure DeleteResult where
  id : Int := 0
  deriving DecidableEq, Repr, Inhabited

def DeleteResult.ofJson? (j : Json) : Option DeleteResult := do
  let f ← j.fields?
  some {
    id := ← f.required Json.readInt64 "id" }

def DeleteResult.toJson (d : DeleteResult) : Json := .obj [
  ("id", .int d.id)]

structure FetchResult where
  feedVersion : Option FeedVersion := none
  fetchError : Option String := none
  foundSha1 : Bool := false
  foundDirSha1 : Bool := false
  deriving DecidableEq, Repr, Inhabited

def FetchResult.ofJson? (j : Json) : Option FetchResult := do
  let f ← j.fields?
  some {
    feedVersion := ← f.optional FeedVersion.ofJson? "feed_version"
    fetchError := ← f.optional Json.readText "fetch_error"
    foundSha1 := ← f.required Json.readBool "found_sha1"
    foundDirSha1 := ← f.required Json.readBool "found_dir_sha1" }

def FetchResult.toJson (f : FetchResult) : Json := .obj [
  ("feed_version", .ofOption FeedVersion.toJson f.feedVersion),
  ("fetch_error", .ofOption .str f.fetchError),
  ("found_sha1", .bool f.foundSha1),
  ("found_dir_sha1", .bool f.foundDirSha1)]

structure ImportResult where
  success : Bool := false
  deriving DecidableEq, Repr, Inhabited

def ImportResult.ofJson? (j : Json) : Option ImportResult := do
  let f ← j.fields?
  some {
    success := ← f.required Json.readBool "success" }

def ImportResult.toJson (i : ImportResult) : Json := .obj [
  ("success", .bool i.success)]

structure UnimportResult where
  success : Bool := false
  deriving DecidableEq, Repr, Inhabited

def UnimportResult.ofJson? (j : Json) : Option UnimportResult := do
  let f ← j.fields?
  some {
    success := ← f.required Json.readBool "success" }

def UnimportResult.toJson (u : UnimportResult) : Json := .obj [
  ("success", .bool u.success)]

structure RemovalResult where
  success : Bool := false
  deriving DecidableEq, Repr, Inhabited

def RemovalResult.ofJson? (j : Json) : Option RemovalResult := do
  let f ← j.fields?
  some {
    success := ← f.required Json.readBool "success" }

def RemovalResult.toJson (r : RemovalResult) : Json := .obj [
  ("success", .bool r.success)]

/-- The outcome of checking a feed without importing it. -/
structure ValidationResult where
  success : Bool := false
  failureReason : Option String := none
  sha1 : Option String := none
  errors : List String := []
  warnings : List String := []
  deriving DecidableEq, Repr, Inhabited

def ValidationResult.ofJson? (j : Json) : Option ValidationResult := do
  let f ← j.fields?
  some {
    success := ← f.required Json.readBool "success"
    failureReason := ← f.optional Json.readText "failure_reason"
    sha1 := ← f.optional Json.readText "sha1"
    errors := ← f.required Json.readTexts "errors"
    warnings := ← f.required Json.readTexts "warnings" }

def ValidationResult.toJson (v : ValidationResult) : Json := .obj [
  ("success", .bool v.success),
  ("failure_reason", .ofOption .str v.failureReason),
  ("sha1", .ofOption .str v.sha1),
  ("errors", .ofTexts v.errors),
  ("warnings", .ofTexts v.warnings)]

end Transit
