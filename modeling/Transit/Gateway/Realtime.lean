import Transit.Gateway.Task
import Transit.Realtime.Alert
import Transit.Realtime.Merge
import Transit.Realtime.VehiclePosition
set_option autoImplicit false

/-!
Realtime data in the terms of the warehouse. What a look-up in the warehouse gives is remembered,
failures excepted; messages are read as they are at the time.
-/

namespace Transit

/-- An answer, the cache after it, and the calls of the warehouse that it took. -/
structure Remembered (α : Type) where
  answer : Except LookupError α
  cache : IdCache
  calls : List String

namespace IdCache

/-- The feeds that bear on a feed version. -/
def feeds (versionId : Int) (w : Warehouse) (c : IdCache) : Remembered (List String) :=
  match c.realtimeFeeds.lookup versionId with
  | some feeds => ⟨.ok feeds, c, []⟩
  | none =>
    match w.realtimeFeeds versionId with
    | .ok feeds =>
      ⟨.ok feeds, { c with realtimeFeeds := (versionId, feeds) :: c.realtimeFeeds },
        ["feed_version_rt_topics"]⟩
    | .error e => ⟨.error e, c, ["feed_version_rt_topics"]⟩

/-- The GTFS id of a trip. -/
def tripId (id : Int) (w : Warehouse) (c : IdCache) : Remembered (Option String) :=
  match c.tripIds.lookup id with
  | some found => ⟨.ok found, c, []⟩
  | none =>
    let found := (w.trip? id).map (·.tripId)
    ⟨.ok found, { c with tripIds := (id, found) :: c.tripIds }, ["trips_by_ids"]⟩

/-- The GTFS id of a stop. -/
def stopId (id : Int) (w : Warehouse) (c : IdCache) : Remembered (Option String) :=
  match c.stopIds.lookup id with
  | some found => ⟨.ok found, c, []⟩
  | none =>
    let found := (w.stop? id).map (·.stopId)
    ⟨.ok found, { c with stopIds := (id, found) :: c.stopIds }, ["stops_by_ids"]⟩

/-- The route with a GTFS id in a feed version. -/
def routeId (versionId : Int) (id : String) (w : Warehouse) (c : IdCache) :
    Remembered (Option Int) :=
  match c.routeIds.lookup (versionId, id) with
  | some found => ⟨.ok found, c, []⟩
  | none =>
    let found := w.routeIdOf? versionId id
    ⟨.ok found, { c with routeIds := ((versionId, id), found) :: c.routeIds },
      ["route_internal_id"]⟩

/-- A zone by its name, if there is one of that name. -/
def zoneNamed? (name : String) : Option Zone := (Zone.parse name).toOption

/-- The zone of the first agency of a feed version. -/
def agencyZone? (w : Warehouse) (versionId : Int) : Option Zone :=
  (w.agencies.find? (·.feedVersionId == versionId)).bind fun a => zoneNamed? a.agencyTimezone

/-- The zone of a stop and the calls that it takes: the first that is set among its own and its
parent station's, else that of the first agency of its feed version. -/
def zoneOfStop (w : Warehouse) (id : Int) : Option Zone × List String :=
  let stopCall := "stops_by_ids"
  let agencyCall := "agencies_by_feed_version_ids"
  match w.stop? id with
  | none => (none, [stopCall])
  | some stop =>
    if stop.stopTimezone != "" then (zoneNamed? stop.stopTimezone, [stopCall])
    else
      match stop.parentStation with
      | none => (agencyZone? w stop.feedVersionId, [stopCall, agencyCall])
      | some parentId =>
        match (w.stop? parentId).filter (·.stopTimezone != "") with
        | some parent => (zoneNamed? parent.stopTimezone, [stopCall, stopCall])
        | none => (agencyZone? w stop.feedVersionId, [stopCall, stopCall, agencyCall])

/-- The zone of a stop. A known name decides alone; the stop with id 0 has no zone. -/
def stopZone (id : Int) (known : String) (w : Warehouse) (c : IdCache) :
    Remembered (Option Zone) :=
  if known != "" then ⟨.ok (zoneNamed? known), c, []⟩
  else if id == 0 then ⟨.ok none, c, []⟩
  else
    match c.stopZones.lookup id with
    | some found => ⟨.ok found, c, []⟩
    | none =>
      let (found, calls) := zoneOfStop w id
      ⟨.ok found, { c with stopZones := (id, found) :: c.stopZones }, calls⟩

end IdCache

namespace Gateway

/-- The messages of a feed. -/
def sourcesOf (g : Gateway) (feed : String) : Realtime.FeedSources where
  feed
  tripUpdates := g.topics.lookup (Realtime.Topic.key ⟨feed, .tripUpdates⟩)
  alerts := g.topics.lookup (Realtime.Topic.key ⟨feed, .alerts⟩)
  vehiclePositions := g.topics.lookup (Realtime.Topic.key ⟨feed, .vehiclePositions⟩)

/-- Vehicles of the feeds that a filter names (all feeds, if it names none), in the order of the
topic keys. At least one is returned if there is any, whatever the limit. -/
def vehiclePositions (g : Gateway) (limit : Nat) (filter : Option VehiclePositionFilter) :
    List VehiclePosition :=
  let topics := g.topics.mergeSort fun a b => a.1 ≤ b.1
  let found := topics.flatMap fun (key, source) =>
    match Realtime.Topic.ofKey? key with
    | some ⟨feed, .vehiclePositions⟩ =>
      if filter.all fun f => f.feedOnestopIds.isEmpty || f.feedOnestopIds.contains feed then
        (source.vehicles.map (VehiclePosition.ofMessage feed)).filter fun v =>
          filter.all v.matchesFilter
      else []
    | _ => []
  found.take (max limit 1)

end Gateway

namespace Task

/-- Look something up in the warehouse unless it is remembered. -/
def remember {α : Type} (lookup : Warehouse → IdCache → Remembered α) :
    Task (Except LookupError α) :=
  .act
    (fun g =>
      let r := lookup g.warehouse g.ids
      { g with ids := r.cache, calls := r.calls.reverse ++ g.calls })
    fun g => .done (lookup g.warehouse g.ids).answer

/-- A look-up that is not made for a field, and remembered apart. -/
def rememberBare {α : Type} (lookup : Warehouse → IdCache → Remembered α) :
    Task (Except LookupError α) :=
  .act
    (fun g =>
      let r := lookup g.warehouse g.bareIds
      { g with bareIds := r.cache, calls := r.calls.reverse ++ g.calls })
    fun g => .done (lookup g.warehouse g.bareIds).answer

/-- Read the messages of some feeds, one feed after another. -/
def readFeeds : List String → Task (List Realtime.FeedSources)
  | [] => .done []
  | feed :: rest => do
    let sources ← look (·.sourcesOf feed)
    return sources :: (← readFeeds rest)

/-- The messages of all feeds that bear on a feed version. -/
def snapshot (versionId : Int) : Task (Except LookupError Realtime.Snapshot) := do
  match ← remember (IdCache.feeds versionId) with
  | .error e => return .error e
  | .ok feeds => return .ok ⟨← readFeeds feeds⟩

/-- A view of the messages that bear on a feed version. -/
def inSnapshot {α : Type} (versionId : Int) (view : Realtime.Snapshot → α) :
    Task (Except LookupError α) := do
  return (← snapshot versionId).map view

def stopZone (id : Int) (known : String) : Task (Except LookupError (Option Zone)) :=
  remember (IdCache.stopZone id known)

/-- The update of a scheduled trip. -/
def tripUpdate (trip : Trip) : Task (Except LookupError (Option Realtime.TripUpdate)) :=
  inSnapshot trip.feedVersionId (·.trip? trip.tripId)

/-- A trip outside the schedule, as a trip of the route that its update names. -/
def addedTrip (versionId : Int) (tripId : String) : Task (Except LookupError Trip) := do
  match ← snapshot versionId with
  | .error e => return .error e
  | .ok s =>
    match s.trip? tripId with
    | none => return .error (.notFound "trip" tripId)
    | some update =>
      match ← remember (IdCache.routeId versionId (update.trip.routeId.getD "")) with
      | .error e => return .error e
      | .ok none => return .error (.notFound "trip" tripId)
      | .ok (some routeId) =>
        return .ok {
          id := StopTime.addedTripId
          feedVersionId := versionId
          tripId
          routeId
          directionId := Number.Range.int32.wrap (update.trip.directionId.getD 0) }

/-- What realtime says about one call of a trip. -/
def visitUpdate (trip : Trip) (row : StopTime) :
    Task (Except LookupError (Option Realtime.VisitUpdate)) := do
  match ← snapshot trip.feedVersionId with
  | .error e => return .error e
  | .ok s =>
    if (s.trip? trip.tripId).isNone then return .ok none
    else
      match ← remember (IdCache.stopId row.stopId) with
      | .error e => return .error e
      | .ok stopId => return .ok (s.visit? trip.tripId row.stopSequence stopId)

/-- The GTFS ids of the trips of scheduled rows. -/
def tripIdsOf : List StopTime → Task (Except LookupError (List (StopTime × Option String)))
  | [] => .done (.ok [])
  | row :: rest => do
    if row.tripId == StopTime.addedTripId then
      match ← tripIdsOf rest with
      | .error e => return .error e
      | .ok rows => return .ok ((row, none) :: rows)
    else
      match ← remember (IdCache.tripId row.tripId) with
      | .error e => return .error e
      | .ok tripId =>
        match ← tripIdsOf rest with
        | .error e => return .error e
        | .ok rows => return .ok ((row, tripId) :: rows)

/-- Merge the rows of a stop with realtime. -/
def mergeStopTimes (s : Realtime.Snapshot) (stop : Stop) (z : Zone) (rows : List StopTime)
    (addedDate : Option Date) : Task (Except LookupError (List StopTime)) := do
  if s.isEmpty then return .ok (StopTime.sorted z rows)
  else
    match ← tripIdsOf rows with
    | .error e => return .error e
    | .ok rows => return .ok (StopTime.merge s stop z rows addedDate)

/-- The service window of a feed version, which is remembered. -/
def serviceWindow (versionId : Int) : Task (Except LookupError (Option ServiceWindow)) :=
  .act
    (fun g =>
      match g.serviceWindows.lookup versionId with
      | some _ => g
      | none => { g.record "find_feed_version_service_window" with
          serviceWindows := (versionId, g.warehouse.serviceWindow? versionId) :: g.serviceWindows })
    fun g => .done (.ok ((g.serviceWindows.lookup versionId).getD (g.warehouse.serviceWindow? versionId)))

end Task

end Transit
