import Transit.Realtime.Message
import Transit.Json.Fields
set_option autoImplicit false

/-!
Feed messages as JSON. Every field may be missing when a message is read; absent fields and empty
lists are left out when it is written.
-/

namespace Transit.Realtime

open Transit.Json (readText readInt32 readInt64 readNat32 readNat64 readSingle readBool readList)

/-- A list that may be missing. -/
def listField {α : Type} (f : Json.Fields) (read : Json → Option α) (name : String) :
    Option (List α) := do
  some ((← f.optional (readList read) name).getD [])

/-- The members that are present. -/
def present (members : List (String × Option Json)) : Json :=
  .obj (members.filterMap fun (name, j) => j.map (name, ·))

/-- A list, unless it is empty. -/
def someList {α : Type} (write : α → Json) (xs : List α) : Option Json :=
  if xs.isEmpty then none else some (.ofList write xs)

def ofNat (n : Nat) : Json := .int n

def ofSingle (x : Float32) : Json := .float x.toFloat

def TripDescriptor.ofJson? (j : Json) : Option TripDescriptor := do
  let f ← j.fields?
  some {
    tripId := ← f.optional readText "trip_id"
    routeId := ← f.optional readText "route_id"
    directionId := ← f.optional readNat32 "direction_id"
    scheduleRelationship := ← f.optional readInt32 "schedule_relationship" }

def TripDescriptor.toJson (t : TripDescriptor) : Json := present [
  ("trip_id", t.tripId.map .str),
  ("route_id", t.routeId.map .str),
  ("direction_id", t.directionId.map ofNat),
  ("schedule_relationship", t.scheduleRelationship.map .int)]

def TimeEvent.ofJson? (j : Json) : Option TimeEvent := do
  let f ← j.fields?
  some {
    delay := ← f.optional readInt32 "delay"
    time := ← f.optional readInt64 "time"
    uncertainty := ← f.optional readInt32 "uncertainty" }

def TimeEvent.toJson (e : TimeEvent) : Json := present [
  ("delay", e.delay.map .int), ("time", e.time.map .int), ("uncertainty", e.uncertainty.map .int)]

def StopTimeUpdate.ofJson? (j : Json) : Option StopTimeUpdate := do
  let f ← j.fields?
  some {
    stopSequence := ← f.optional readNat32 "stop_sequence"
    stopId := ← f.optional readText "stop_id"
    arrival := ← f.optional TimeEvent.ofJson? "arrival"
    departure := ← f.optional TimeEvent.ofJson? "departure"
    scheduleRelationship := ← f.optional readInt32 "schedule_relationship" }

def StopTimeUpdate.toJson (u : StopTimeUpdate) : Json := present [
  ("stop_sequence", u.stopSequence.map ofNat),
  ("stop_id", u.stopId.map .str),
  ("arrival", u.arrival.map TimeEvent.toJson),
  ("departure", u.departure.map TimeEvent.toJson),
  ("schedule_relationship", u.scheduleRelationship.map .int)]

def TripUpdate.ofJson? (j : Json) : Option TripUpdate := do
  let f ← j.fields?
  some {
    trip := (← f.optional TripDescriptor.ofJson? "trip").getD {}
    timestamp := ← f.optional readNat64 "timestamp"
    delay := ← f.optional readInt32 "delay"
    stopTimeUpdates := ← listField f StopTimeUpdate.ofJson? "stop_time_update" }

def TripUpdate.toJson (t : TripUpdate) : Json := present [
  ("trip", some t.trip.toJson),
  ("timestamp", t.timestamp.map ofNat),
  ("delay", t.delay.map .int),
  ("stop_time_update", someList StopTimeUpdate.toJson t.stopTimeUpdates)]

def VehicleDescriptor.ofJson? (j : Json) : Option VehicleDescriptor := do
  let f ← j.fields?
  some {
    id := ← f.optional readText "id"
    label := ← f.optional readText "label"
    licensePlate := ← f.optional readText "license_plate" }

def VehicleDescriptor.toJson (v : VehicleDescriptor) : Json := present [
  ("id", v.id.map .str), ("label", v.label.map .str), ("license_plate", v.licensePlate.map .str)]

def Position.ofJson? (j : Json) : Option Position := do
  let f ← j.fields?
  some {
    latitude := (← f.optional readSingle "latitude").getD 0
    longitude := (← f.optional readSingle "longitude").getD 0
    bearing := ← f.optional readSingle "bearing"
    speed := ← f.optional readSingle "speed" }

def Position.toJson (p : Position) : Json := present [
  ("latitude", some (ofSingle p.latitude)),
  ("longitude", some (ofSingle p.longitude)),
  ("bearing", p.bearing.map ofSingle),
  ("speed", p.speed.map ofSingle)]

def Vehicle.ofJson? (j : Json) : Option Vehicle := do
  let f ← j.fields?
  some {
    trip := ← f.optional TripDescriptor.ofJson? "trip"
    vehicle := ← f.optional VehicleDescriptor.ofJson? "vehicle"
    position := ← f.optional Position.ofJson? "position"
    currentStopSequence := ← f.optional readNat32 "current_stop_sequence"
    stopId := ← f.optional readText "stop_id"
    currentStatus := ← f.optional readInt32 "current_status"
    timestamp := ← f.optional readNat64 "timestamp"
    congestionLevel := ← f.optional readInt32 "congestion_level" }

def Vehicle.toJson (v : Vehicle) : Json := present [
  ("trip", v.trip.map TripDescriptor.toJson),
  ("vehicle", v.vehicle.map VehicleDescriptor.toJson),
  ("position", v.position.map Position.toJson),
  ("current_stop_sequence", v.currentStopSequence.map ofNat),
  ("stop_id", v.stopId.map .str),
  ("current_status", v.currentStatus.map .int),
  ("timestamp", v.timestamp.map ofNat),
  ("congestion_level", v.congestionLevel.map .int)]

def ActivePeriod.ofJson? (j : Json) : Option ActivePeriod := do
  let f ← j.fields?
  some { start := ← f.optional readNat64 "start", stop := ← f.optional readNat64 "end" }

def ActivePeriod.toJson (p : ActivePeriod) : Json := present [
  ("start", p.start.map ofNat), ("end", p.stop.map ofNat)]

def EntitySelector.ofJson? (j : Json) : Option EntitySelector := do
  let f ← j.fields?
  some {
    agencyId := ← f.optional readText "agency_id"
    routeId := ← f.optional readText "route_id"
    trip := ← f.optional TripDescriptor.ofJson? "trip"
    stopId := ← f.optional readText "stop_id" }

def EntitySelector.toJson (s : EntitySelector) : Json := present [
  ("agency_id", s.agencyId.map .str),
  ("route_id", s.routeId.map .str),
  ("trip", s.trip.map TripDescriptor.toJson),
  ("stop_id", s.stopId.map .str)]

def LanguageText.ofJson? (j : Json) : Option LanguageText := do
  let f ← j.fields?
  some {
    text := (← f.optional readText "text").getD ""
    language := ← f.optional readText "language" }

def LanguageText.toJson (t : LanguageText) : Json := present [
  ("text", some (.str t.text)), ("language", t.language.map .str)]

/-- A text in several languages. -/
def wordingToJson (ts : List LanguageText) : Json := present [
  ("translation", someList LanguageText.toJson ts)]

def AlertMessage.ofJson? (j : Json) : Option AlertMessage := do
  let f ← j.fields?
  let wording := f.optional (readList LanguageText.ofJson?)
  some {
    activePeriods := ← listField f ActivePeriod.ofJson? "active_period"
    informedEntities := ← listField f EntitySelector.ofJson? "informed_entity"
    cause := ← f.optional readInt32 "cause"
    effect := ← f.optional readInt32 "effect"
    severityLevel := ← f.optional readInt32 "severity_level"
    headerText := ← wording "header_text"
    descriptionText := ← wording "description_text"
    ttsHeaderText := ← wording "tts_header_text"
    ttsDescriptionText := ← wording "tts_description_text"
    url := ← wording "url" }

def AlertMessage.toJson (a : AlertMessage) : Json := present [
  ("active_period", someList ActivePeriod.toJson a.activePeriods),
  ("informed_entity", someList EntitySelector.toJson a.informedEntities),
  ("cause", a.cause.map .int),
  ("effect", a.effect.map .int),
  ("severity_level", a.severityLevel.map .int),
  ("header_text", a.headerText.map wordingToJson),
  ("description_text", a.descriptionText.map wordingToJson),
  ("tts_header_text", a.ttsHeaderText.map wordingToJson),
  ("tts_description_text", a.ttsDescriptionText.map wordingToJson),
  ("url", a.url.map wordingToJson)]

def Entity.ofJson? (j : Json) : Option Entity := do
  let f ← j.fields?
  some {
    id := (← f.optional readText "id").getD ""
    isDeleted := ← f.optional readBool "is_deleted"
    tripUpdate := ← f.optional TripUpdate.ofJson? "trip_update"
    vehicle := ← f.optional Vehicle.ofJson? "vehicle"
    alert := ← f.optional AlertMessage.ofJson? "alert" }

def Message.ofJson? (j : Json) : Option Message := do
  let f ← j.fields?
  some {
    timestamp := ← f.optional readNat64 "timestamp"
    entities := ← listField f Entity.ofJson? "entity" }

def VisitUpdate.ofJson? (j : Json) : Option VisitUpdate := do
  let f ← j.fields?
  some {
    update := ← f.optional StopTimeUpdate.ofJson? "stop_time_update"
    lastDelay := ← f.optional readInt32 "last_delay" }

def VisitUpdate.toJson (u : VisitUpdate) : Json := present [
  ("stop_time_update", u.update.map StopTimeUpdate.toJson),
  ("last_delay", u.lastDelay.map .int)]

end Transit.Realtime
