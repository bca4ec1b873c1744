import Transit.Realtime.Source
set_option autoImplicit false

/-!
The realtime state of the feeds that bear on one feed version, and the update in it that belongs
to a visit of a trip at a stop.
-/

namespace Transit.Realtime

/-- The sources of one feed. -/
structure FeedSources where
  feed : String
  tripUpdates : Option Source := none
  alerts : Option Source := none
  vehiclePositions : Option Source := none
  deriving DecidableEq, Repr, Inhabited

structure Snapshot where
  feeds : List FeedSources := []
  deriving DecidableEq, Repr, Inhabited

namespace StopTimeUpdate

/-- The delay that an update reports: of the departure, else of the arrival. -/
def reportedDelay? (u : StopTimeUpdate) : Option Int :=
  (u.departure.bind (·.delay)).or (u.arrival.bind (·.delay))

def isSkipped (u : StopTimeUpdate) : Bool :=
  u.scheduleRelationship == some 1

end StopTimeUpdate

namespace TripUpdate

/-- The position of the update that belongs to a visit: the one with its stop sequence, else the
only one for its stop. -/
def visitIndex? (t : TripUpdate) (sequence : Int) (stopId : Option String) : Option Nat :=
  let bySequence := t.stopTimeUpdates.findIdx? fun u => u.stopSequence.any fun n => (n : Int) == sequence
  bySequence.or do
    let id ← stopId
    if (t.stopTimeUpdates.filter (·.stopId == some id)).length == 1 then
      t.stopTimeUpdates.findIdx? (·.stopId == some id)
    else none

/-- The last delay reported among some updates. -/
def lastDelay? (us : List StopTimeUpdate) : Option Int :=
  (us.filterMap (·.reportedDelay?)).getLast?

/-- What the update says about one visit. When nothing in it belongs to the visit, a delay
reported at an earlier stop sequence stands alone. -/
def visit? (t : TripUpdate) (sequence : Int) (stopId : Option String) : Option VisitUpdate :=
  match t.visitIndex? sequence stopId with
  | some i => some ⟨t.stopTimeUpdates[i]?, lastDelay? (t.stopTimeUpdates.take i)⟩
  | none =>
    let earlier := t.stopTimeUpdates.filter fun u => u.stopSequence.any fun s => (s : Int) < sequence
    (lastDelay? earlier).map fun delay => ⟨none, some delay⟩

/-- The trip is not in the schedule. -/
def isAdded (t : TripUpdate) : Bool :=
  t.trip.scheduleRelationship == some 1

def callsAt (t : TripUpdate) (stopId : String) : Bool :=
  t.stopTimeUpdates.any (·.stopId == some stopId)

end TripUpdate

def VisitUpdate.isSkipped (u : VisitUpdate) : Bool :=
  u.update.any (·.isSkipped)

namespace Snapshot

def isEmpty (s : Snapshot) : Bool := s.feeds.isEmpty

/-- The sources with trip updates, in the order of the feeds. -/
def tripSources (s : Snapshot) : List Source :=
  s.feeds.filterMap (·.tripUpdates)

/-- The update of a trip, from the first feed that has one. -/
def trip? (s : Snapshot) (id : String) : Option TripUpdate :=
  s.tripSources.findSome? (·.trip? id)

/-- When the feed with the trip's update was produced. -/
def tripTimestamp? (s : Snapshot) (id : String) : Option Nat :=
  (s.tripSources.find? fun source => (source.trip? id).isSome).bind (·.timestamp)

/-- What the feeds say about a visit: the first update for the visit itself, else the first delay
that stands alone. -/
def visit? (s : Snapshot) (tripId : String) (sequence : Int) (stopId : Option String) :
    Option VisitUpdate :=
  let found := s.tripSources.filterMap fun source => do (← source.trip? tripId).visit? sequence stopId
  (found.find? (·.update.isSome)).or found.head?

/-- Trips outside the schedule that call at a stop. -/
def addedTrips (s : Snapshot) (stopId : String) : List TripUpdate :=
  (s.tripSources.flatMap fun source => source.trips.map (·.2)).filter fun t =>
    t.isAdded && t.callsAt stopId

/-- Every alert, with the feed that publishes it. -/
def alerts (s : Snapshot) : List (String × AlertMessage) :=
  s.feeds.flatMap fun f => (f.alerts.elim [] (·.alerts)).map (f.feed, ·)

end Snapshot

end Transit.Realtime
