import Transit.Number.Text
import Transit.Record.Trip
import Transit.Realtime.Json
import Transit.Realtime.StopTimeEvent
import Transit.Realtime.VehiclePosition
import Transit.Service.Window
set_option autoImplicit false

/-!
What clients see of realtime data, as JSON, together with the schedule relationship of trips and
the rows of a stop's display.
-/

namespace Transit

/-- How a trip or a call relates to the schedule. -/
inductive ScheduleRelationship
  | scheduled
  | added
  | canceled
  | unscheduled
  deriving DecidableEq, Repr, Inhabited

namespace ScheduleRelationship

def all : List ScheduleRelationship := [.scheduled, .added, .canceled, .unscheduled]

def name : ScheduleRelationship → String
  | .scheduled => "scheduled"
  | .added => "added"
  | .canceled => "canceled"
  | .unscheduled => "unscheduled"

def ofJson? (j : Json) : Option ScheduleRelationship := do
  let s ← Json.readText j
  all.find? (·.name == s)

def toJson (r : ScheduleRelationship) : Json := .str r.name

/-- The relationship that a number in a trip descriptor stands for. -/
def ofTripValue? : Int → Option ScheduleRelationship
  | 0 => some .scheduled
  | 1 => some .added
  | 2 => some .unscheduled
  | 3 => some .canceled
  | _ => none

end ScheduleRelationship

def TimeRange.toJson (r : TimeRange) : Json := .obj [
  ("start", .ofOption .int r.start), ("end", .ofOption .int r.stop)]

def Realtime.LanguageText.displayJson (t : Realtime.LanguageText) : Json := .obj [
  ("text", .str t.text), ("language", .ofOption .str t.language)]

def Alert.toJson (a : Alert) : Json :=
  let texts := Json.ofList Realtime.LanguageText.displayJson
  .obj [
    ("cause", .ofOption .str a.cause),
    ("effect", .ofOption .str a.effect),
    ("severity_level", .ofOption .str a.severityLevel),
    ("active_period", .ofList TimeRange.toJson a.activePeriod),
    ("header_text", texts a.headerText),
    ("description_text", texts a.descriptionText),
    ("tts_header_text", texts a.ttsHeaderText),
    ("tts_description_text", texts a.ttsDescriptionText),
    ("url", texts a.url)]

/-- `single` tells how a number of single precision is written. -/
def VehiclePosition.toJson (single : Float32 → Float) (v : VehiclePosition) : Json := .obj [
  ("feed_onestop_id", .str v.feedOnestopId),
  ("vehicle", .ofOption (fun d => .obj [
    ("id", .ofOption .str d.id),
    ("label", .ofOption .str d.label),
    ("license_plate", .ofOption .str d.licensePlate)]) v.vehicle),
  ("position", .ofOption Point.toJson v.position),
  ("bearing", .ofOption (fun x => .float (single x)) v.bearing),
  ("speed", .ofOption (fun x => .float (single x)) v.speed),
  ("current_stop_sequence", .ofOption (fun n => .int n) v.currentStopSequence),
  ("stop_id", .ofOption .str v.stopId),
  ("current_status", .ofOption .str v.currentStatus),
  ("congestion_level", .ofOption .str v.congestionLevel),
  ("timestamp", .ofOption Instant.toJson v.timestamp),
  ("trip_id", .ofOption .str v.tripId),
  ("route_id", .ofOption .str v.routeId)]

def StopTimeEvent.toJson (e : StopTimeEvent) : Json := .obj [
  ("stop_timezone", .str e.stopTimezone),
  ("scheduled", .ofOption WideTime.toJson e.scheduled),
  ("scheduled_utc", .ofOption Instant.toJson e.scheduledUtc),
  ("scheduled_unix", .ofOption .int e.scheduledUnix),
  ("scheduled_local", .ofOption LocalInstant.toJson e.scheduledLocal),
  ("estimated", .ofOption WideTime.toJson e.estimated),
  ("estimated_utc", .ofOption Instant.toJson e.estimatedUtc),
  ("estimated_unix", .ofOption .int e.estimatedUnix),
  ("estimated_local", .ofOption LocalInstant.toJson e.estimatedLocal),
  ("time_utc", .ofOption Instant.toJson e.timeUtc),
  ("delay", .ofOption .int e.delay),
  ("uncertainty", .ofOption .int e.uncertainty)]

def ServiceWindow.toJson (w : ServiceWindow) : Json := .obj [
  ("start_date", w.startDate.toJson),
  ("end_date", w.endDate.toJson),
  ("best_week", w.bestWeek.toJson)]

def ServiceWindow.ofJson? (j : Json) : Option ServiceWindow := do
  let f ← j.fields?
  some {
    startDate := ← f.required Date.ofJson? "start_date"
    endDate := ← f.required Date.ofJson? "end_date"
    bestWeek := ← f.required Date.ofJson? "best_week" }

namespace StopTime

/-- A stop time and, under `rt`, the realtime update attached to it. -/
def rowOfJson? (j : Json) : Option StopTime := do
  let f ← j.fields?
  let row ← StopTime.ofJson? j
  some { row with update := ← f.optional Realtime.VisitUpdate.ofJson? "rt" }

def rowToJson (r : StopTime) : Json :=
  match r.toJson with
  | .obj members => .obj (members ++ [("rt", .ofOption Realtime.VisitUpdate.toJson r.update)])
  | j => j

end StopTime

end Transit
