import Transit.Field.StopTime
set_option autoImplicit false

/-!
Rows of a stop as web clients see them, with their events and the GTFS ids of their trips. The
scheduled trips of all rows are loaded together.
-/

namespace Transit.Http

structure RowView where
  row : StopTime
  /-- The GTFS id of the trip, be it in the schedule or not. -/
  tripId : Option String
  arrival : StopTimeEvent
  departure : StopTimeEvent
  relationship : Option ScheduleRelationship

namespace RowView

def toJson (v : RowView) : Json :=
  match v.row.toJson with
  | .obj members => .obj (members ++ [
    ("gtfs_trip_id", .ofOption .str v.tripId),
    ("arrival", v.arrival.toJson),
    ("departure", v.departure.toJson),
    ("schedule_relationship", .ofOption ScheduleRelationship.toJson v.relationship)])
  | j => j

/-- A view that may still wait for its trip. -/
structure Draft where
  view : RowView
  waits : Bool

/-- All of a view but a scheduled trip. -/
def draft (r : StopTime) : Resolve Draft := do
  let arrival ← r.arrival
  let departure ← r.departure
  let relationship ← r.scheduleRelationship
  match r.addedTripId? with
  | some id =>
    let trip ← Resolve.on "trip" (Task.addedTrip r.feedVersionId id)
    return ⟨⟨r, some trip.tripId, arrival, departure, relationship⟩, false⟩
  | none => return ⟨⟨r, none, arrival, departure, relationship⟩, true⟩

/-- Draft rows up to the first that fails; that row's error and the rows after it are left over. -/
def draftUntil : List StopTime → Task (List Draft × Option (FieldError × List StopTime))
  | [] => .done ([], none)
  | r :: rest => do
    match ← (draft r).run with
    | .error e => return ([], some (e, rest))
    | .ok d =>
      let (ds, failed) ← draftUntil rest
      return (d :: ds, failed)

/-- Draft rows, each for itself, and leave out those that fail. -/
def draftEach : List StopTime → Task (List Draft)
  | [] => .done []
  | r :: rest => do
    match ← (draft r).run with
    | .error _ => draftEach rest
    | .ok d => return d :: (← draftEach rest)

/-- Load the trips that drafts wait for. -/
def loadTrips (drafts : List Draft) : Task (List (Except LoadError (Option Trip))) :=
  .load (.one .trip) ((drafts.filter (·.waits)).map (·.view.row.tripId)) .done

/-- Put loaded trips into the drafts that wait for them. -/
def fill : List Draft → List (Except LoadError (Option Trip)) → Except FieldError (List RowView)
  | [], _ => .ok []
  | d :: ds, loaded =>
    if d.waits then
      match loaded with
      | trip :: loaded => do
        let trip ← Resolve.ofLoaded "trip" trip
        return { d.view with tripId := trip.map (·.tripId) } :: (← fill ds loaded)
      | [] => .error .cancelled
    else do return d.view :: (← fill ds loaded)

/-- Up to so many rows a failed one ends the work at once; beyond, rows are first brought as far as
they get when an earlier one waits. -/
def manyRows : Nat := 30

/-- The views of rows, or the error of the first row that fails. -/
def ofRows (rows : List StopTime) : Resolve (List RowView) := do
  let (drafts, failed) ← Resolve.task (draftUntil rows)
  match failed with
  | none => Resolve.ofExcept (fill drafts (← Resolve.task (loadTrips drafts)))
  | some (e, rest) =>
    if manyRows < rows.length && drafts.any (·.waits) then
      let others ← Resolve.task (draftEach rest)
      let _ ← Resolve.task (loadTrips (drafts ++ others))
    throw e

end RowView

end Transit.Http
