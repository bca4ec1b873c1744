import Transit.Realtime.Feed
set_option autoImplicit false

/-!
One feed message indexed for look-ups: its trip updates by trip id, its alerts and its vehicles.
Deleted entities do not count.
-/

namespace Transit.Realtime

/-- `trips` has one update for each trip id, sorted by trip id. -/
structure Source where
  timestamp : Option Nat := none
  trips : List (String × TripUpdate) := []
  alerts : List AlertMessage := []
  vehicles : List Vehicle := []
  deriving DecidableEq, Repr, Inhabited

namespace Source

/-- Put an update under a trip id, in place of an earlier one. -/
def insertTrip (id : String) (t : TripUpdate) : List (String × TripUpdate) →
    List (String × TripUpdate)
  | [] => [(id, t)]
  | (k, u) :: rest =>
    if id < k then (id, t) :: (k, u) :: rest
    else if id == k then (id, t) :: rest
    else (k, u) :: insertTrip id t rest

/-- Add what an entity holds. Updates without a trip id are left out. -/
def add (s : Source) (e : Entity) : Source :=
  if e.isDeleted.getD false then s
  else
    let trips := match e.tripUpdate with
      | some t => match t.trip.tripId with
        | some id => if id.isEmpty then s.trips else insertTrip id t s.trips
        | none => s.trips
      | none => s.trips
    { s with
      trips
      alerts := s.alerts ++ e.alert.toList
      vehicles := s.vehicles ++ e.vehicle.toList }

def ofMessage (m : Message) : Source :=
  m.entities.foldl add { timestamp := m.timestamp }

/-- The source of a message in bytes; `none` when they are malformed. -/
def decode? (bytes : Bytes) : Option Source :=
  (Message.decode? bytes).map ofMessage

/-- The update of a trip. -/
def trip? (s : Source) (id : String) : Option TripUpdate :=
  s.trips.lookup id

end Source

end Transit.Realtime
