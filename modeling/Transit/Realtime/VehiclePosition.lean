import Transit.Realtime.Alert
import Transit.Record.Filter
set_option autoImplicit false

/-!
Vehicle positions as clients see them, and the filter on them.
-/

namespace Transit

open Realtime

structure VehiclePosition where
  feedOnestopId : String
  vehicle : Option VehicleDescriptor := none
  position : Option Point := none
  bearing : Option Float32 := none
  speed : Option Float32 := none
  currentStopSequence : Option Nat := none
  stopId : Option String := none
  currentStatus : Option String := none
  congestionLevel : Option String := none
  timestamp : Option Instant := none
  tripId : Option String := none
  routeId : Option String := none
  deriving DecidableEq, Repr, Inhabited

namespace VehiclePosition

def statuses : List String := ["INCOMING_AT", "STOPPED_AT", "IN_TRANSIT_TO"]

def congestionLevels : List String := ["UNKNOWN_CONGESTION_LEVEL", "RUNNING_SMOOTHLY",
  "STOP_AND_GO", "CONGESTION", "SEVERE_CONGESTION"]

def ofMessage (feed : String) (v : Vehicle) : VehiclePosition where
  feedOnestopId := feed
  vehicle := v.vehicle
  position := v.position.map fun p => ⟨p.longitude.toFloat, p.latitude.toFloat⟩
  bearing := v.position.bind (·.bearing)
  speed := v.position.bind (·.speed)
  currentStopSequence := v.currentStopSequence
  stopId := v.stopId
  currentStatus := v.currentStatus.bind (Alert.nameOf? 0 statuses)
  congestionLevel := v.congestionLevel.bind (Alert.nameOf? 0 congestionLevels)
  timestamp := v.timestamp.bind fun t => Instant.ofUnix? t
  tripId := v.trip.bind (·.tripId)
  routeId := v.trip.bind (·.routeId)

/-- What a filter says of the vehicle itself; its feeds are looked at elsewhere. -/
def matchesFilter (v : VehiclePosition) (f : VehiclePositionFilter) : Bool :=
  (f.routeId.isNone || v.routeId == f.routeId)
    && (f.tripId.isNone || v.tripId == f.tripId)
    && f.bbox.all (fun box => v.position.any box.contains)
    && f.near.all (fun near => v.position.any near.contains)

end VehiclePosition

end Transit
