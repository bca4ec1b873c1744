import Transit.Gateway.Resolve
import Transit.Record.Display
set_option autoImplicit false

/-!
Fields of trips and of their calendars.
-/

namespace Transit

namespace Trip

def cursor (t : Trip) : Cursor := ⟨t.feedVersionId, t.id⟩

def route (t : Trip) : Resolve (Option Route) :=
  Resolve.row .route t.routeId "route"

def feedVersion (t : Trip) : Resolve (Option FeedVersion) :=
  Resolve.row .feedVersion t.feedVersionId "feed_version"

def shape (t : Trip) : Resolve (Option Shape) :=
  Resolve.reference .shape t.shapeId "shape"

def calendar (t : Trip) : Resolve (Option Calendar) :=
  Resolve.row .calendar t.serviceId "calendar"

def stopTimes (t : Trip) (limit : Option Int) (filter : Option TripStopTimeFilter) :
    Resolve (List StopTime) :=
  Resolve.rows .stopTimesByTrip (t.feedVersionId, t.id) "stop_times" limit filter

def frequencies (t : Trip) (limit : Option Int) : Resolve (List Frequency) :=
  Resolve.rows .frequenciesByTrip t.id "frequencies" limit none

end Trip

/-- The relationship that an update gives its trip: a trip without an update runs as scheduled, and
so does one whose update does not say. -/
def Realtime.TripUpdate.relationship? : Option Realtime.TripUpdate → Option ScheduleRelationship
  | none => some .scheduled
  | some update => ScheduleRelationship.ofTripValue? (update.trip.scheduleRelationship.getD 0)

namespace Trip

/-- None when realtime has a value that is not known here. -/
def scheduleRelationship (t : Trip) : Resolve (Option ScheduleRelationship) := do
  return Realtime.TripUpdate.relationship?
    (← Resolve.on "schedule_relationship" (Task.tripUpdate t))

/-- When the realtime data of the trip was produced: the time of its update, else of the message in
which the update came. -/
def timestamp (t : Trip) : Resolve (Option Instant) := do
  let s ← Resolve.on "timestamp" (Task.snapshot t.feedVersionId)
  return do
    let update ← s.trip? t.tripId
    Instant.ofUnix? (← update.timestamp.or (s.tripTimestamp? t.tripId))

def alerts (t : Trip) (active : Option Bool) (limit : Option Int) : Resolve (List Alert) :=
  Resolve.alerts t.feedVersionId active limit (Alert.namesTrip t.tripId)

end Trip

namespace Calendar

/-- The dates of the exceptions of one type. -/
def exceptions (c : Calendar) (exceptionType : Int) (field : String) (limit : Option Int) :
    Resolve (List Date) := do
  let rows ← Resolve.rows .calendarDatesByService c.id field limit
    (some { exceptionType := some exceptionType })
  return rows.map (·.date)

def addedDates (c : Calendar) (limit : Option Int) : Resolve (List Date) :=
  c.exceptions 1 "added_dates" limit

def removedDates (c : Calendar) (limit : Option Int) : Resolve (List Date) :=
  c.exceptions 2 "removed_dates" limit

end Calendar

end Transit
