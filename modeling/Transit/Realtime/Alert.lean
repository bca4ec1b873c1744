import Transit.Realtime.Snapshot
import Transit.Number.Integer
import Transit.Civil.Instant
set_option autoImplicit false

/-!
Alerts as clients see them: enumerations by name, periods in signed Unix seconds, and the choice of
the alerts that concern a feed, agency, route, trip or stop.
-/

namespace Transit

open Realtime

/-- A period in Unix seconds, open at an absent end. -/
structure TimeRange where
  start : Option Int := none
  stop : Option Int := none
  deriving DecidableEq, Repr, Inhabited

def TimeRange.contains (r : TimeRange) (unix : Int) : Bool :=
  r.start.all (· ≤ unix) && r.stop.all (unix ≤ ·)

structure Alert where
  cause : Option String := none
  effect : Option String := none
  severityLevel : Option String := none
  activePeriod : List TimeRange := []
  headerText : List LanguageText := []
  descriptionText : List LanguageText := []
  ttsHeaderText : List LanguageText := []
  ttsDescriptionText : List LanguageText := []
  url : List LanguageText := []
  deriving DecidableEq, Repr, Inhabited

namespace Alert

def causes : List String := ["UNKNOWN_CAUSE", "OTHER_CAUSE", "TECHNICAL_PROBLEM", "STRIKE",
  "DEMONSTRATION", "ACCIDENT", "HOLIDAY", "WEATHER", "MAINTENANCE", "CONSTRUCTION",
  "POLICE_ACTIVITY", "MEDICAL_EMERGENCY"]

def effects : List String := ["NO_SERVICE", "REDUCED_SERVICE", "SIGNIFICANT_DELAYS", "DETOUR",
  "ADDITIONAL_SERVICE", "MODIFIED_SERVICE", "OTHER_EFFECT", "UNKNOWN_EFFECT", "STOP_MOVED",
  "NO_EFFECT", "ACCESSIBILITY_ISSUE"]

def severities : List String := ["UNKNOWN_SEVERITY", "INFO", "WARNING", "SEVERE"]

/-- The name of an enumeration value; the names are numbered from `first`. -/
def nameOf? (first : Int) (names : List String) (n : Int) : Option String :=
  if n < first then none else names[(n - first).toNat]?

/-- An unsigned bound as a signed one; a bound beyond the signed range is no bound. -/
def signedBound (n : Option Nat) : Option Int :=
  n.bind fun n => if Number.Range.int64.holds n then some (n : Int) else none

def ofMessage (a : AlertMessage) : Alert where
  cause := a.cause.bind (nameOf? 1 causes)
  effect := a.effect.bind (nameOf? 1 effects)
  severityLevel := a.severityLevel.bind (nameOf? 1 severities)
  activePeriod := a.activePeriods.map fun p => ⟨signedBound p.start, signedBound p.stop⟩
  headerText := a.headerText.getD []
  descriptionText := a.descriptionText.getD []
  ttsHeaderText := a.ttsHeaderText.getD []
  ttsDescriptionText := a.ttsDescriptionText.getD []
  url := a.url.getD []

/-- An alert without periods is always active. -/
def isActiveAt (a : Alert) (unix : Int) : Bool :=
  a.activePeriod.isEmpty || a.activePeriod.any (·.contains unix)

/-- How many alerts are wanted, whether only those active, and the present. -/
structure Query where
  limit : Nat
  active : Bool
  now : Instant
  deriving DecidableEq, Repr

/-- The first alerts with a property that the query wants. -/
def select (q : Query) (picks : AlertMessage → Bool) (alerts : List AlertMessage) : List Alert :=
  (((alerts.filter picks).map ofMessage).filter fun a => !q.active || a.isActiveAt q.now.seconds).take
    q.limit

def namesTrip (id : String) (a : AlertMessage) : Bool :=
  a.informedEntities.any fun s => s.trip.any (·.tripId == some id)

/-- Selectors for a trip do not concern its whole route. -/
def namesRoute (id : String) (a : AlertMessage) : Bool :=
  a.informedEntities.any fun s => s.trip.isNone && s.routeId == some id

def namesAgency (id : String) (a : AlertMessage) : Bool :=
  a.informedEntities.any fun s => s.trip.isNone && s.agencyId == some id

def namesStop (id : String) (a : AlertMessage) : Bool :=
  a.informedEntities.any (·.stopId == some id)

end Alert

namespace Realtime.Snapshot

/-- The alerts of all feeds with a property. -/
def selectAlerts (s : Snapshot) (q : Alert.Query) (picks : AlertMessage → Bool) : List Alert :=
  Alert.select q picks (s.alerts.map (·.2))

end Realtime.Snapshot

end Transit
