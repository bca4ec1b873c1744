set_option autoImplicit false

/-!
GTFS realtime feed messages: trip updates, vehicle positions and alerts, with the fields that the
gateway looks at. Enumerations stay numbers here, since a message may carry values that no version
of the format defines.
-/

namespace Transit.Realtime

structure TripDescriptor where
  tripId : Option String := none
  routeId : Option String := none
  directionId : Option Nat := none
  scheduleRelationship : Option Int := none
  deriving DecidableEq, Repr, Inhabited

/-- An expected arrival or departure: an absolute time, or a delay against the schedule. -/
structure TimeEvent where
  delay : Option Int := none
  time : Option Int := none
  uncertainty : Option Int := none
  deriving DecidableEq, Repr, Inhabited

structure StopTimeUpdate where
  stopSequence : Option Nat := none
  stopId : Option String := none
  arrival : Option TimeEvent := none
  departure : Option TimeEvent := none
  scheduleRelationship : Option Int := none
  deriving DecidableEq, Repr, Inhabited

structure TripUpdate where
  trip : TripDescriptor := {}
  timestamp : Option Nat := none
  delay : Option Int := none
  stopTimeUpdates : List StopTimeUpdate := []
  deriving DecidableEq, Repr, Inhabited

structure VehicleDescriptor where
  id : Option String := none
  label : Option String := none
  licensePlate : Option String := none
  deriving DecidableEq, Repr, Inhabited

structure Position where
  latitude : Float32 := 0
  longitude : Float32 := 0
  bearing : Option Float32 := none
  speed : Option Float32 := none
  deriving DecidableEq, Repr, Inhabited

structure Vehicle where
  trip : Option TripDescriptor := none
  vehicle : Option VehicleDescriptor := none
  position : Option Position := none
  currentStopSequence : Option Nat := none
  stopId : Option String := none
  currentStatus : Option Int := none
  timestamp : Option Nat := none
  congestionLevel : Option Int := none
  deriving DecidableEq, Repr, Inhabited

/-- A period in Unix seconds, open at an absent end. -/
structure ActivePeriod where
  start : Option Nat := none
  stop : Option Nat := none
  deriving DecidableEq, Repr, Inhabited

/-- What an alert is about: whatever all the given parts describe. -/
structure EntitySelector where
  agencyId : Option String := none
  routeId : Option String := none
  trip : Option TripDescriptor := none
  stopId : Option String := none
  deriving DecidableEq, Repr, Inhabited

/-- A text in one language, which may be left open. -/
structure LanguageText where
  text : String := ""
  language : Option String := none
  deriving DecidableEq, Repr, Inhabited

structure AlertMessage where
  activePeriods : List ActivePeriod := []
  informedEntities : List EntitySelector := []
  cause : Option Int := none
  effect : Option Int := none
  severityLevel : Option Int := none
  headerText : Option (List LanguageText) := none
  descriptionText : Option (List LanguageText) := none
  ttsHeaderText : Option (List LanguageText) := none
  ttsDescriptionText : Option (List LanguageText) := none
  url : Option (List LanguageText) := none
  deriving DecidableEq, Repr, Inhabited

structure Entity where
  id : String := ""
  isDeleted : Option Bool := none
  tripUpdate : Option TripUpdate := none
  vehicle : Option Vehicle := none
  alert : Option AlertMessage := none
  deriving DecidableEq, Repr, Inhabited

structure Message where
  timestamp : Option Nat := none
  entities : List Entity := []
  deriving DecidableEq, Repr, Inhabited

/-- The update found for one visit, if any, and the delay that an earlier stop of the trip last
reported. -/
structure VisitUpdate where
  update : Option StopTimeUpdate := none
  lastDelay : Option Int := none
  deriving DecidableEq, Repr, Inhabited

end Transit.Realtime
