import Transit.Realtime.Snapshot
import Transit.Record.Stop
import Transit.Service.Days
import Transit.WideTime
set_option autoImplicit false

/-!
The rows of a stop's display: scheduled stop times with the realtime updates that belong to them,
and rows for trips outside the schedule, in the order in which they leave.
-/

namespace Transit

open Realtime

namespace StopTime

/-- Give a row the update of its visit at a stop. A row whose trip is not known stays as it is. -/
def attach (s : Snapshot) (stop : Stop) (row : StopTime) (tripId : Option String) : StopTime :=
  match tripId with
  | none => row
  | some id => { row with update := s.visit? id row.stopSequence (some stop.stopId) }

/-- The row of one call of a trip outside the schedule. -/
def ofAdded (stop : Stop) (serviceDate : Option Date) (t : TripUpdate) (u : StopTimeUpdate) :
    StopTime where
  feedVersionId := stop.feedVersionId
  tripId := StopTime.addedTripId
  stopId := stop.id
  stopSequence := Number.Range.int32.wrap (u.stopSequence.getD 0)
  serviceDate
  date := serviceDate
  rtTripId := t.trip.tripId
  update := some ⟨some u, none⟩

/-- A row for each call at the stop of each trip outside the schedule. -/
def addedRows (s : Snapshot) (stop : Stop) (serviceDate : Option Date) : List StopTime :=
  (s.addedTrips stop.stopId).flatMap fun t =>
    (t.stopTimeUpdates.filter (·.stopId == some stop.stopId)).map (ofAdded stop serviceDate t)

/-- The realtime time of a row, on its service date. -/
def estimate? (z : Zone) (r : StopTime) : Option WideTime := do
  let u ← (← r.update).update
  let t ← (← u.departure.or u.arrival).time
  WideTime.ofInstant? (← Instant.ofUnix? t) r.serviceDate z

/-- The seconds of the service day at which a row leaves; rows without any time come last. -/
def sortSeconds (z : Zone) (r : StopTime) : Int :=
  match r.departureTime.or r.arrivalTime with
  | some t => t.seconds
  | none =>
    match r.estimate? z with
    | some t => t.seconds
    | none => Number.Range.int32.hi

/-- When a row leaves, in Unix seconds; in seconds of the day when the service date is not known. -/
def sortKey (z : Zone) (r : StopTime) : Int :=
  match r.serviceDate.bind z.serviceMidnight? with
  | some midnight => midnight.instant.seconds + r.sortSeconds z
  | none => r.sortSeconds z

/-- Rows in the order of their keys; rows with the same key keep their order. -/
def sorted (z : Zone) (rows : List StopTime) : List StopTime :=
  ((rows.map fun r => (r.sortKey z, r)).mergeSort fun a b => a.1 ≤ b.1).map (·.2)

/-- Scheduled rows with the GTFS ids of their trips, merged with realtime. -/
def merge (s : Snapshot) (stop : Stop) (z : Zone) (rows : List (StopTime × Option String))
    (addedDate : Option Date) : List StopTime :=
  sorted z (rows.map (fun (row, tripId) => row.attach s stop tripId) ++ addedRows s stop addedDate)

end StopTime

end Transit
