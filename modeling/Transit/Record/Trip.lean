import Transit.Record.Scalar
import Transit.Realtime.Message
set_option autoImplicit false

/-!
Trips, their stop times, and the calendars that say on which dates they run.
-/

namespace Transit

/-- A trip of one feed version. -/
structure Trip where
  id : Int := 0
  feedVersionId : Int := 0
  tripId : String := ""
  routeId : Int := 0
  serviceId : Int := 0
  tripHeadsign : Option String := none
  tripShortName : Option String := none
  directionId : Int := 0
  blockId : Option String := none
  shapeId : Option Int := none
  wheelchairAccessible : Option Int := none
  bikesAllowed : Option Int := none
  stopPatternId : Int := 0
  deriving DecidableEq, Repr, Inhabited

def Trip.ofJson? (j : Json) : Option Trip := do
  let f ← j.fields?
  some {
    id := ← f.withDefault Json.readInt64 "id" 0
    feedVersionId := ← f.withDefault Json.readInt64 "feed_version_id" 0
    tripId := ← f.withDefault Json.readText "trip_id" ""
    routeId := ← f.withDefault Json.readInt64 "route_id" 0
    serviceId := ← f.withDefault Json.readInt64 "service_id" 0
    tripHeadsign := ← f.optional Json.readText "trip_headsign"
    tripShortName := ← f.optional Json.readText "trip_short_name"
    directionId := ← f.withDefault Json.readInt32 "direction_id" 0
    blockId := ← f.optional Json.readText "block_id"
    shapeId := ← f.optional Json.readInt64 "shape_id"
    wheelchairAccessible := ← f.optional Json.readInt32 "wheelchair_accessible"
    bikesAllowed := ← f.optional Json.readInt32 "bikes_allowed"
    stopPatternId := ← f.withDefault Json.readInt32 "stop_pattern_id" 0 }

def Trip.toJson (t : Trip) : Json := .obj [
  ("id", .int t.id),
  ("feed_version_id", .int t.feedVersionId),
  ("trip_id", .str t.tripId),
  ("route_id", .int t.routeId),
  ("service_id", .int t.serviceId),
  ("trip_headsign", .ofOption .str t.tripHeadsign),
  ("trip_short_name", .ofOption .str t.tripShortName),
  ("direction_id", .int t.directionId),
  ("block_id", .ofOption .str t.blockId),
  ("shape_id", .ofOption .int t.shapeId),
  ("wheelchair_accessible", .ofOption .int t.wheelchairAccessible),
  ("bikes_allowed", .ofOption .int t.bikesAllowed),
  ("stop_pattern_id", .int t.stopPatternId)]

/-- A call of a trip at a stop. `update` is what realtime data says about it. -/
structure StopTime where
  feedVersionId : Int := 0
  tripId : Int := 0
  stopId : Int := 0
  stopSequence : Int := 0
  arrivalTime : Option WideTime := none
  departureTime : Option WideTime := none
  stopHeadsign : Option String := none
  pickupType : Option Int := none
  dropOffType : Option Int := none
  timepoint : Option Int := none
  shapeDistTraveled : Option Float := none
  serviceDate : Option Date := none
  date : Option Date := none
  rtTripId : Option String := none
  update : Option Realtime.VisitUpdate := none
  deriving DecidableEq, Repr, Inhabited

def StopTime.ofJson? (j : Json) : Option StopTime := do
  let f ← j.fields?
  some {
    feedVersionId := ← f.withDefault Json.readInt64 "feed_version_id" 0
    tripId := ← f.withDefault Json.readInt64 "trip_id" 0
    stopId := ← f.withDefault Json.readInt64 "stop_id" 0
    stopSequence := ← f.withDefault Json.readInt32 "stop_sequence" 0
    arrivalTime := ← f.optional WideTime.ofJson? "arrival_time"
    departureTime := ← f.optional WideTime.ofJson? "departure_time"
    stopHeadsign := ← f.optional Json.readText "stop_headsign"
    pickupType := ← f.optional Json.readInt32 "pickup_type"
    dropOffType := ← f.optional Json.readInt32 "drop_off_type"
    timepoint := ← f.optional Json.readInt32 "timepoint"
    shapeDistTraveled := ← f.optional Json.readFloat "shape_dist_traveled"
    serviceDate := ← f.optional Date.ofJson? "service_date"
    date := ← f.optional Date.ofJson? "date"
    rtTripId := ← f.optional Json.readText "rt_trip_id" }

def StopTime.toJson (s : StopTime) : Json := .obj [
  ("feed_version_id", .int s.feedVersionId),
  ("trip_id", .int s.tripId),
  ("stop_id", .int s.stopId),
  ("stop_sequence", .int s.stopSequence),
  ("arrival_time", .ofOption WideTime.toJson s.arrivalTime),
  ("departure_time", .ofOption WideTime.toJson s.departureTime),
  ("stop_headsign", .ofOption .str s.stopHeadsign),
  ("pickup_type", .ofOption .int s.pickupType),
  ("drop_off_type", .ofOption .int s.dropOffType),
  ("timepoint", .ofOption .int s.timepoint),
  ("shape_dist_traveled", .ofOption .float s.shapeDistTraveled),
  ("service_date", .ofOption Date.toJson s.serviceDate),
  ("date", .ofOption Date.toJson s.date),
  ("rt_trip_id", .ofOption .str s.rtTripId)]

/-- The weekdays on which a service runs, between two dates. -/
structure Calendar where
  id : Int := 0
  feedVersionId : Int := 0
  serviceId : String := ""
  monday : Bool := false
  tuesday : Bool := false
  wednesday : Bool := false
  thursday : Bool := false
  friday : Bool := false
  saturday : Bool := false
  sunday : Bool := false
  startDate : Date := {}
  endDate : Date := {}
  generated : Bool := false
  deriving DecidableEq, Repr, Inhabited

def Calendar.ofJson? (j : Json) : Option Calendar := do
  let f ← j.fields?
  some {
    id := ← f.withDefault Json.readInt64 "id" 0
    feedVersionId := ← f.withDefault Json.readInt64 "feed_version_id" 0
    serviceId := ← f.withDefault Json.readText "service_id" ""
    monday := ← f.withDefault Json.readBool "monday" false
    tuesday := ← f.withDefault Json.readBool "tuesday" false
    wednesday := ← f.withDefault Json.readBool "wednesday" false
    thursday := ← f.withDefault Json.readBool "thursday" false
    friday := ← f.withDefault Json.readBool "friday" false
    saturday := ← f.withDefault Json.readBool "saturday" false
    sunday := ← f.withDefault Json.readBool "sunday" false
    startDate := ← f.withDefault Date.ofJson? "start_date" {}
    endDate := ← f.withDefault Date.ofJson? "end_date" {}
    generated := ← f.withDefault Json.readBool "generated" false }

def Calendar.toJson (c : Calendar) : Json := .obj [
  ("id", .int c.id),
  ("feed_version_id", .int c.feedVersionId),
  ("service_id", .str c.serviceId),
  ("monday", .bool c.monday),
  ("tuesday", .bool c.tuesday),
  ("wednesday", .bool c.wednesday),
  ("thursday", .bool c.thursday),
  ("friday", .bool c.friday),
  ("saturday", .bool c.saturday),
  ("sunday", .bool c.sunday),
  ("start_date", c.startDate.toJson),
  ("end_date", c.endDate.toJson),
  ("generated", .bool c.generated)]

/-- A date on which a service is added (type 1) or removed (type 2). -/
structure CalendarDate where
  id : Int := 0
  serviceId : Int := 0
  date : Date := {}
  exceptionType : Int := 0
  deriving DecidableEq, Repr, Inhabited

def CalendarDate.ofJson? (j : Json) : Option CalendarDate := do
  let f ← j.fields?
  some {
    id := ← f.withDefault Json.readInt64 "id" 0
    serviceId := ← f.withDefault Json.readInt64 "service_id" 0
    date := ← f.withDefault Date.ofJson? "date" {}
    exceptionType := ← f.withDefault Json.readInt32 "exception_type" 0 }

def CalendarDate.toJson (c : CalendarDate) : Json := .obj [
  ("id", .int c.id),
  ("service_id", .int c.serviceId),
  ("date", c.date.toJson),
  ("exception_type", .int c.exceptionType)]

/-- A trip that repeats at a fixed interval. -/
structure Frequency where
  id : Int := 0
  tripId : Int := 0
  startTime : WideTime := {}
  endTime : WideTime := {}
  headwaySecs : Int := 0
  exactTimes : Option Int := none
  deriving DecidableEq, Repr, Inhabited

def Frequency.ofJson? (j : Json) : Option Frequency := do
  let f ← j.fields?
  some {
    id := ← f.withDefault Json.readInt64 "id" 0
    tripId := ← f.withDefault Json.readInt64 "trip_id" 0
    startTime := ← f.withDefault WideTime.ofJson? "start_time" {}
    endTime := ← f.withDefault WideTime.ofJson? "end_time" {}
    headwaySecs := ← f.withDefault Json.readInt32 "headway_secs" 0
    exactTimes := ← f.optional Json.readInt32 "exact_times" }

def Frequency.toJson (f : Frequency) : Json := .obj [
  ("id", .int f.id),
  ("trip_id", .int f.tripId),
  ("start_time", f.startTime.toJson),
  ("end_time", f.endTime.toJson),
  ("headway_secs", .int f.headwaySecs),
  ("exact_times", .ofOption .int f.exactTimes)]

/-- The path of a trip. -/
structure Shape where
  id : Int := 0
  feedVersionId : Int := 0
  shapeId : String := ""
  generated : Bool := false
  geometry : List Point := []
  deriving DecidableEq, Repr, Inhabited

def Shape.ofJson? (j : Json) : Option Shape := do
  let f ← j.fields?
  some {
    id := ← f.required Json.readInt64 "id"
    feedVersionId := ← f.required Json.readInt64 "feed_version_id"
    shapeId := ← f.required Json.readText "shape_id"
    generated := ← f.required Json.readBool "generated"
    geometry := ← f.required (Json.readList Point.ofJson?) "geometry" }

def Shape.toJson (s : Shape) : Json := .obj [
  ("id", .int s.id),
  ("feed_version_id", .int s.feedVersionId),
  ("shape_id", .str s.shapeId),
  ("generated", .bool s.generated),
  ("geometry", .ofList Point.toJson s.geometry)]

end Transit
