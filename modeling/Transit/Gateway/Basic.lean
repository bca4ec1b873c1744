import Transit.Gateway.Lookup
import Transit.Gateway.Settings
import Transit.Loader.Basic
import Transit.Realtime.Source
import Transit.Realtime.Topic
import Transit.Request.Input
import Transit.Request.Meter
import Transit.Request.User
set_option autoImplicit false

/-!
The state of a gateway: the warehouse, the realtime messages, what has been remembered of both, and
the request that is being answered.
-/

namespace Transit

/-- A job for later: what to do, and with what. -/
structure Job where
  kind : String
  args : List String
  deriving DecidableEq, Repr, Inhabited

/-- What is remembered of the warehouse for matching it with realtime messages. -/
structure IdCache where
  /-- The feeds that bear on a feed version. -/
  realtimeFeeds : List (Int × List String) := []
  /-- GTFS ids of trips. -/
  tripIds : List (Int × Option String) := []
  /-- GTFS ids of stops. -/
  stopIds : List (Int × Option String) := []
  /-- Routes by feed version and GTFS id. -/
  routeIds : List ((Int × String) × Option Int) := []
  stopZones : List (Int × Option Zone) := []
  deriving Repr, Inhabited

/-- A request: who makes it, what is accounted to it, and its loaders. -/
structure Request where
  user : User := {}
  meter : Meter := {}
  cancelled : Bool := false
  loaders : (l : Lookup) → Loader l.Key l.Value

namespace Request

def capacity (s : Settings) (l : Lookup) : Nat :=
  if l.isStopTimes then s.stopTimeCapacity else s.loaderCapacity

/-- A request that has asked for nothing yet. -/
def start (s : Settings) (user : User) : Request where
  user
  loaders := fun l => .empty (capacity s l)

/-- Give one of the loaders a new state. -/
def setLoader (r : Request) (l : Lookup) (loader : Loader l.Key l.Value) : Request :=
  { r with loaders := fun k => if h : l = k then h ▸ loader else r.loaders k }

def cancel (r : Request) : Request :=
  { r with cancelled := true, loaders := fun l => (r.loaders l).cancel }

end Request

structure Gateway where
  warehouse : Warehouse := {}
  settings : Settings := {}
  /-- The roles that callers hold by name. -/
  granted : List (String × List String) := []
  now : Instant := {}
  /-- Realtime messages by topic key. -/
  topics : List (String × Realtime.Source) := []
  ids : IdCache := {}
  /-- What bare look-ups remember, apart from what fields do. -/
  bareIds : IdCache := {}
  serviceWindows : List (Int × Option ServiceWindow) := []
  jobs : List Job := []
  /-- The calls of the warehouse, by name, the latest first. -/
  calls : List String := []
  request : Request

namespace Gateway

/-- Note a call of the warehouse. -/
def record (method : String) (g : Gateway) : Gateway :=
  { g with calls := method :: g.calls }

/-- How often each of the called methods has been called, in the order of their names. -/
def callCounts (g : Gateway) : List (String × Nat) :=
  (g.calls.mergeSort fun a b => a ≤ b).eraseDups.map fun m => (m, g.calls.count m)

/-- A fresh request of a user. -/
def startRequest (g : Gateway) (user : User) : Gateway :=
  { g with request := .start g.settings user }

def cancel (g : Gateway) : Gateway :=
  { g with request := g.request.cancel }

/-- Put a message under a topic key, in place of the one before. -/
def publish (g : Gateway) (key : String) (source : Realtime.Source) : Gateway :=
  { g with topics := (key, source) :: g.topics.filter (·.1 != key) }

/-- Note that a user's request touches the root selection of a name. -/
def meterRoot (name : String) (g : Gateway) : Gateway :=
  { g with request := { g.request with
      meter := g.request.meter.addDimension ⟨"graphql", "resolver", name⟩ } }

/-- The limit of a listing. -/
def limit (g : Gateway) (limit : Option Int) : Nat :=
  Request.checkLimit limit g.settings.defaultLimit g.settings.maxLimit

/-- The limit of a listing of stops or trips. -/
def largeLimit (g : Gateway) (limit : Option Int) : Nat :=
  Request.checkLimit limit g.settings.defaultLimit g.settings.largeLimit

end Gateway

end Transit
