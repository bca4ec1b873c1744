import Transit.Gateway.Resolve
set_option autoImplicit false

/-!
Root selections: the listings with which a query begins, and the caller.
-/

namespace Transit

/-- What a client asks of a listing. -/
structure RootArgs (ω : Type) where
  limit : Option Int := none
  /-- The cursor of the last row that the client has. -/
  after : Option String := none
  ids : List Int := []
  filter : Option ω := none
  deriving DecidableEq, Repr

namespace Root

/-- A caller as it appears to itself. -/
def me : Resolve User := do
  Resolve.requireRole Role.user
  Resolve.look (·.request.user)

/-- Check an area of a filter: a circle is brought to its greatest radius, and a box must not be too
large. -/
def checkArea (near : Option PointRadius) (bbox : Option BoundingBox) :
    Resolve (Option PointRadius) := do
  let maxRadius ← Resolve.look (·.settings.maxRadius)
  if let some box := bbox then Resolve.ofExcept (Request.checkBox box maxRadius)
  return near.map (Request.checkRadius · maxRadius)

/-- List rows on behalf of a root selection. -/
def list {ω τ : Type} (method : String) (args : RootArgs ω) (limit : Gateway → Option Int → Nat)
    (query : Warehouse → ListArgs ω → List τ) : Resolve (List τ) := do
  let limit ← Resolve.look (limit · args.limit)
  let after ← Resolve.ofExcept (Request.checkCursor args.after)
  Resolve.ask method (query · ⟨limit, after, args.ids, args.filter⟩)

def meter (name : String) : Resolve Unit :=
  Resolve.task (Task.change (Gateway.meterRoot name))

def agencies (args : RootArgs AgencyFilter) : Resolve (List Agency) := do
  meter "agencies"
  let filter ← args.filter.mapM fun f => do return { f with near := ← checkArea f.near f.bbox }
  list "find_agencies" { args with filter } Gateway.limit Warehouse.listAgencies

def routes (args : RootArgs RouteFilter) : Resolve (List Route) := do
  meter "routes"
  let filter ← args.filter.mapM fun f => do return { f with near := ← checkArea f.near f.bbox }
  list "find_routes" { args with filter } Gateway.limit Warehouse.listRoutes

def stops (args : RootArgs StopFilter) : Resolve (List Stop) := do
  meter "stops"
  let filter ← args.filter.mapM fun f => do return { f with near := ← checkArea f.near f.bbox }
  list "find_stops" { args with filter } Gateway.largeLimit Warehouse.listStops

def trips (args : RootArgs TripFilter) : Resolve (List Trip) := do
  meter "trips"
  list "find_trips" args Gateway.largeLimit Warehouse.listTrips

def feeds (args : RootArgs FeedFilter) : Resolve (List Feed) := do
  meter "feeds"
  list "find_feeds" args Gateway.limit Warehouse.listFeeds

def feedVersions (args : RootArgs FeedVersionFilter) : Resolve (List FeedVersion) := do
  meter "feed_versions"
  list "find_feed_versions" args Gateway.limit Warehouse.listFeedVersions

def operators (args : RootArgs OperatorFilter) : Resolve (List Operator) := do
  meter "operators"
  list "find_operators" args Gateway.limit Warehouse.listOperators

def censusDatasets (args : RootArgs CensusDatasetFilter) : Resolve (List CensusDataset) := do
  meter "census_datasets"
  list "find_census_datasets" args Gateway.limit Warehouse.listCensusDatasets

/-- Places grouped at a level, by country and region unless another is given. -/
def places (limit : Option Int) (level : Option PlaceLevel) (filter : Option PlaceFilter) :
    Resolve (List Place) := do
  meter "places"
  let limit ← Resolve.look (·.limit limit)
  Resolve.ask "find_places" (·.listPlaces limit (level.getD .adm0Adm1) filter)

def vehiclePositions (limit : Option Int) (filter : Option VehiclePositionFilter) :
    Resolve (List VehiclePosition) := do
  meter "vehicle_positions"
  let filter ← filter.mapM fun f => do return { f with near := ← checkArea f.near f.bbox }
  let limit ← Resolve.look (·.limit limit)
  Resolve.look (·.vehiclePositions limit filter)

/-- A circle brought to its greatest radius. -/
def checkNear (near : Option PointRadius) : Resolve (Option PointRadius) := checkArea near none

def bikes (limit : Option Int) (request : BikeRequest) : Resolve (List FreeBike) := do
  meter "bikes"
  let near ← checkNear request.near
  let limit ← Resolve.look (·.limit limit)
  Resolve.ask "find_bikes" (·.findBikes limit { near })

def docks (limit : Option Int) (request : DockRequest) : Resolve (List DockingStation) := do
  meter "docks"
  let near ← checkNear request.near
  let limit ← Resolve.look (·.limit limit)
  Resolve.ask "find_docks" (·.findDocks limit { near })

end Root

end Transit
