import Transit.Selection.Entity
import Transit.Selection.Root
set_option autoImplicit false

/-!
Realtime data by name, as fields use it: trips outside the schedule, updates of trips and calls, and
the look-ups that lead from the schedule to the messages.
-/

namespace Transit

namespace RootSelection

open Realtime (FeedSources TripUpdate VisitUpdate Snapshot)

def findTrip : RootSelection := fun args => do
  let trip ← Entity.trip.row args
  return .ofOption TripUpdate.toJson (← Select.ofLookup (Task.tripUpdate trip))

def makeTrip : RootSelection := fun args => do
  let versionId ← args.required Json.readInt64 "feed_version_id"
  let tripId ← args.required Json.readText "trip_id"
  return Trip.toJson (← Select.ofLookup (Task.addedTrip versionId tripId))

def findVisitUpdate : RootSelection := fun args => do
  let trip ← Entity.trip.row args
  let row ← args.required StopTime.rowOfJson? "stop_time"
  return .ofOption VisitUpdate.toJson (← Select.ofLookup (Task.visitUpdate trip row))

/-- Trips outside the schedule by their ids. -/
def addedTrips : RootSelection := fun args => do
  let stop ← Entity.stop.row args
  let trips ← Select.ofLookup (Task.inSnapshot stop.feedVersionId (·.addedTrips stop.stopId))
  let byId := trips.mergeSort fun a b => a.trip.tripId.getD "" ≤ b.trip.tripId.getD ""
  return .ofList TripUpdate.toJson byId

/-- How much a feed's messages hold. -/
def extentToJson (f : FeedSources) : Json :=
  let count (n : Nat) : Json := .int n
  .obj [
    ("feed", .str f.feed),
    ("trips", .ofOption (fun s => count s.trips.length) f.tripUpdates),
    ("alerts", .ofOption (fun s => count s.alerts.length) f.alerts),
    ("vehicles", .ofOption (fun s => count s.vehicles.length) f.vehiclePositions)]

def snapshot : RootSelection := fun args => do
  let versionId ← args.required Json.readInt64 "feed_version_id"
  return .ofList extentToJson (← Select.ofLookup (Task.inSnapshot versionId (·.feeds)))

/-- A look-up that is remembered, by an id. -/
def remembered {α : Type} (write : α → Json)
    (remember : (Warehouse → IdCache → Remembered α) → Task (Except LookupError α))
    (lookup : Int → Warehouse → IdCache → Remembered α) : RootSelection := fun args => do
  let id ← args.required Json.readInt64 "id"
  return write (← Select.ofLookup (remember (lookup id)))

def stopZone
    (remember : (Warehouse → IdCache → Remembered (Option Zone)) →
      Task (Except LookupError (Option Zone))) : RootSelection := fun args => do
  let known ← args.withDefault Json.readText "known" ""
  remembered (.ofOption fun z => .str z.name) remember (IdCache.stopZone · known) args

def routeId : RootSelection := fun args => do
  let id ← args.required Json.readText "route_id"
  remembered (.ofOption .int) Task.rememberBare (IdCache.routeId · id) args

/-- Look-ups as fields make them. -/
def realtime : List (String × RootSelection) := [
  ("find_trip", findTrip),
  ("make_trip", makeTrip),
  ("gtfs_trip_id", remembered (.ofOption .str) Task.remember IdCache.tripId),
  ("find_stop_time_update", findVisitUpdate),
  ("added_trips", addedTrips),
  ("snapshot", snapshot),
  ("stop_timezone", stopZone Task.remember)]

/-- Bare look-ups. -/
def lookups : List (String × RootSelection) := [
  ("rt_topics", remembered .ofTexts Task.rememberBare IdCache.feeds),
  ("gtfs_trip_id", remembered (.ofOption .str) Task.rememberBare IdCache.tripId),
  ("gtfs_stop_id", remembered (.ofOption .str) Task.rememberBare IdCache.stopId),
  ("route_id", routeId),
  ("stop_timezone", stopZone Task.rememberBare)]

end RootSelection

end Transit
