import Transit.Field.Trip
import Transit.Realtime.StopTimeEvent
set_option autoImplicit false

/-!
Fields of the rows of a display: where a row stops, which trip it belongs to, and when it arrives
and departs.
-/

namespace Transit.StopTime

def stop (r : StopTime) : Resolve (Option Stop) :=
  Resolve.row .stop r.stopId "stop"

/-- The realtime trip of a row for a trip outside the schedule. -/
def addedTripId? (r : StopTime) : Option String :=
  if r.tripId == addedTripId then r.rtTripId else none

/-- The scheduled trip, or one made up for a row outside the schedule. -/
def trip (r : StopTime) : Resolve (Option Trip) :=
  match r.addedTripId? with
  | some id => do return some (← Resolve.on "trip" (Task.addedTrip r.feedVersionId id))
  | none => Resolve.row .trip r.tripId "trip"

/-- The zone of the row's stop. -/
def zone (r : StopTime) : Resolve Zone := do
  match ← Resolve.on "stop_timezone" (Task.stopZone r.stopId "") with
  | some z => return z
  | none => throw .timezoneUnavailable

/-- What an update says about a call, by the side that counts and then by the other. -/
def event (r : StopTime) (scheduled : Option WideTime)
    (pick : Realtime.StopTimeUpdate → Option Realtime.TimeEvent) : Resolve StopTimeEvent := do
  let z ← r.zone
  return .build z r.serviceDate scheduled ((r.update.bind (·.update)).bind pick)
    (r.update.bind (·.lastDelay))

def arrival (r : StopTime) : Resolve StopTimeEvent :=
  r.event r.arrivalTime fun u => u.arrival.or u.departure

def departure (r : StopTime) : Resolve StopTimeEvent :=
  r.event r.departureTime fun u => u.departure.or u.arrival

/-- Rows outside the schedule are added and skipped calls canceled; otherwise the trip's own
relationship counts. -/
def scheduleRelationship (r : StopTime) : Resolve (Option ScheduleRelationship) := do
  if r.isAdded then return some .added
  else if r.update.any (·.isSkipped) then return some .canceled
  else
    match ← Resolve.on "schedule_relationship" (Task.remember (IdCache.tripId r.tripId)) with
    | none => return some .scheduled
    | some tripId =>
      return Realtime.TripUpdate.relationship?
        (← Resolve.on "schedule_relationship"
          (Task.inSnapshot r.feedVersionId (·.trip? tripId)))

end Transit.StopTime
