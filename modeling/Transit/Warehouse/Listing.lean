import Transit.Error
import Transit.Geo.Hull
import Transit.Warehouse.Matching
import Transit.Service.Window
import Transit.Text.LowerCase
set_option autoImplicit false

/-!
Listings of the warehouse's rows, page by page, and what is worked out for one route or one feed
version.
-/

namespace Transit

/-- What a listing is asked for: rows with one of some ids (any, when there are none), after a
cursor, that a filter admits, up to a limit. -/
structure ListArgs (ω : Type) where
  limit : Nat
  after : Option Cursor := none
  ids : List Int := []
  filter : Option ω := none
  deriving DecidableEq, Repr

namespace Warehouse

/-- The first pair comes before the second or is the same. -/
def pairLe (a b : Int × Int) : Bool :=
  a.1 < b.1 || (a.1 == b.1 && a.2 ≤ b.2)

/-- The rows that are asked for, in the order of their keys. -/
def select {τ ω : Type} (rows : List τ) (args : ListArgs ω) (key : τ → Int × Int)
    (keep : ω → τ → Bool) : List τ :=
  ((rows.filter fun r =>
      (args.ids.isEmpty || args.ids.contains (key r).2)
        && args.after.all (fun c => c.admits (key r).1 (key r).2)
        && args.filter.all (keep · r)).mergeSort
    fun a b => pairLe (key a) (key b)).take args.limit

def listAgencies (w : Warehouse) (args : ListArgs AgencyFilter) : List Agency :=
  select w.agencies args (fun a => (a.feedVersionId, a.id)) w.agencyMatches

def listRoutes (w : Warehouse) (args : ListArgs RouteFilter) : List Route :=
  select w.routes args (fun r => (r.feedVersionId, r.id)) w.routeMatches

def listStops (w : Warehouse) (args : ListArgs StopFilter) : List Stop :=
  select w.stops args (fun s => (s.feedVersionId, s.id)) w.stopMatches

def listTrips (w : Warehouse) (args : ListArgs TripFilter) : List Trip :=
  select w.trips args (fun t => (t.feedVersionId, t.id)) w.tripMatches

def listFeeds (w : Warehouse) (args : ListArgs FeedFilter) : List Feed :=
  select w.feeds args (fun f => (0, f.id)) w.feedMatches

def listFeedVersions (w : Warehouse) (args : ListArgs FeedVersionFilter) : List FeedVersion :=
  select w.feedVersions args (fun v => (0, v.id)) w.feedVersionMatches

/-- The first row of each value, in order. -/
def firstBy {τ : Type} (value : τ → String) : List String → List τ → List τ
  | _, [] => []
  | seen, r :: rest =>
    if seen.contains (value r) then firstBy value seen rest
    else r :: firstBy value (value r :: seen) rest

/-- A merged listing has one row for each onestop id. -/
def listOperators (w : Warehouse) (args : ListArgs OperatorFilter) : List Operator :=
  let all := select w.operators { args with limit := w.operators.length } (fun o => (0, o.id))
    w.operatorMatches
  let rows := if args.filter.bind (·.merged) == some true then firstBy (·.onestopId) [] all else all
  rows.take args.limit

def listCensusDatasets (w : Warehouse) (args : ListArgs CensusDatasetFilter) :
    List CensusDataset :=
  select w.censusDatasets args (fun d => (0, d.id)) fun f d =>
    Match.equals f.name d.name && f.search.all (Text.containsFolded d.name)

/-- The names by which places are grouped. -/
structure PlaceKey where
  adm0 : Option String
  adm1 : Option String
  city : Option String
  deriving DecidableEq, Repr

namespace PlaceKey

/-- An absent name comes first. -/
def nameOrder : Option String → Option String → Ordering
  | none, none => .eq
  | none, some _ => .lt
  | some _, none => .gt
  | some a, some b => compare a b

def order (a b : PlaceKey) : Ordering :=
  (nameOrder a.adm0 b.adm0).then ((nameOrder a.adm1 b.adm1).then (nameOrder a.city b.city))

/-- The names of a place that a level of grouping keeps. -/
def ofPlace (level : PlaceLevel) (p : AgencyPlace) : PlaceKey where
  adm0 := if level.byAdm0 then p.adm0Name else none
  adm1 := if level.byAdm1 then p.adm1Name else none
  city := if level.byCity then p.cityName else none

def matchesFilter (k : PlaceKey) (f : PlaceFilter) : Bool :=
  Match.present f.adm0Name k.adm0 && Match.present f.adm1Name k.adm1
    && Match.present f.cityName k.city

end PlaceKey

/-- Add an agency to the group of a key. Groups and agencies are sorted. -/
def addPlace (key : PlaceKey) (agencyId : Int) :
    List (PlaceKey × List Int) → List (PlaceKey × List Int)
  | [] => [(key, [agencyId])]
  | (k, ids) :: rest =>
    match PlaceKey.order key k with
    | .lt => (key, [agencyId]) :: (k, ids) :: rest
    | .eq => (k, insertId agencyId ids) :: rest
    | .gt => (k, ids) :: addPlace key agencyId rest
where
  insertId (id : Int) : List Int → List Int
    | [] => [id]
    | n :: rest => if id < n then id :: n :: rest else if id == n then n :: rest else n :: insertId id rest

/-- Put a text into a sorted list without repeats. -/
def insertText (s : String) : List String → List String
  | [] => [s]
  | t :: rest => if s < t then s :: t :: rest else if s == t then t :: rest else t :: insertText s rest

/-- The onestop ids under which an agency is known: those of its operators, else its own. -/
def agencyOnestopIds (w : Warehouse) (agencyId : Int) : List String :=
  match w.operators.filter (·.agencyId == some agencyId) with
  | [] => ((w.agency? agencyId).map (·.onestopId)).toList
  | operators => operators.map (·.onestopId)

def listPlaces (w : Warehouse) (limit : Nat) (level : PlaceLevel) (filter : Option PlaceFilter) :
    List Place :=
  let ranked := w.agencyPlaces.filter fun p => !((filter.bind (·.minRank)).any (p.rank < ·))
  let groups := ranked.foldl (fun gs p => addPlace (PlaceKey.ofPlace level p) p.agencyId gs) []
  ((groups.filter fun (k, _) => filter.all k.matchesFilter).take limit).map fun (k, agencies) =>
    { adm0Name := k.adm0
      adm1Name := k.adm1
      cityName := k.city
      count := agencies.length
      operatorOnestopIds :=
        (agencies.flatMap w.agencyOnestopIds).foldl (fun ids s => insertText s ids) [] }

/-- The stops of a route as points, the area around them, and the area within a distance of them.
A route without stops has none of these. -/
def routeStopBuffer? (w : Warehouse) (routeId : Int) (radius : Float) : Option RouteStopBuffer :=
  (w.route? routeId).map fun _ =>
    match w.routePoints routeId with
    | [] => {}
    | points => {
        stopPoints := some points
        stopBuffer := some ⟨Geo.buffer radius points, []⟩
        stopConvexhull := some ⟨Geo.convexHull points, []⟩ }

/-- The service window of a feed version: the stored one, else the one that its service levels
give. -/
def serviceWindow? (w : Warehouse) (feedVersionId : Int) : Option ServiceWindow :=
  let stored := (w.serviceWindows.find? (·.feedVersionId == feedVersionId)).bind
    ServiceWindow.ofRecord?
  stored.or do
    let version ← w.feedVersion? feedVersionId
    ServiceWindow.derive? version.fetchedAt.date
      (w.feedInfos.find? (·.feedVersionId == feedVersionId))
      (w.serviceLevels.filter (·.feedVersionId == feedVersionId))

/-- The feeds whose realtime messages bear on a feed version: its own, those associated with it, and
the realtime feeds that name its feed as associated. -/
def realtimeFeeds (w : Warehouse) (feedVersionId : Int) : Except LookupError (List String) :=
  match w.feedVersion? feedVersionId with
  | none => .error (.notFound "feed version" (toString feedVersionId))
  | some version =>
    match w.feed? version.feedId with
    | none => .ok []
    | some feed =>
      let naming := w.feeds.filter fun f =>
        f.spec == .gtfsRt && f.associatedFeeds.contains feed.onestopId
      .ok ([feed.onestopId] ++ feed.associatedFeeds ++ naming.map (·.onestopId)).eraseDups

/-- The route of a feed version with a GTFS route id. -/
def routeIdOf? (w : Warehouse) (feedVersionId : Int) (routeId : String) : Option Int :=
  (w.routes.find? fun r => r.feedVersionId == feedVersionId && r.routeId == routeId).map (·.id)

def findBikes (w : Warehouse) (limit : Nat) (request : BikeRequest) : List FreeBike :=
  (w.bikes.filter fun b => request.near.all (·.contains ⟨b.lon, b.lat⟩)).take limit

def findDocks (w : Warehouse) (limit : Nat) (request : DockRequest) : List DockingStation :=
  (w.docks.filter fun d => request.near.all (·.contains ⟨d.lon, d.lat⟩)).take limit

end Warehouse

end Transit
