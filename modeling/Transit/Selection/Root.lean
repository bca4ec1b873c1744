import Transit.Field.Root
import Transit.Selection.Basic
set_option autoImplicit false

/-!
Root selections by name.
-/

namespace Transit

/-- A selection that begins with no row. -/
abbrev RootSelection := Args → Select Json

namespace RootSelection

def rootArgs {ω : Type} (read : Json → Option ω) (args : Args) : Select (RootArgs ω) := do
  let limit ← args.limit
  let after ← args.optional Json.readText "after"
  let ids ← args.withDefault (Json.readList Json.readInt64) "ids" []
  let filter ← args.optional read "where"
  return { limit, after, ids, filter }

/-- A listing that is paged by cursors. -/
def paged {ω τ : Type} (write : τ → Json) (read : Json → Option ω)
    (list : RootArgs ω → Resolve (List τ)) : RootSelection := fun args => do
  return .ofList write (← Select.ofField (list (← rootArgs read args)))

/-- A listing with a limit and a filter. -/
def limited {ω τ : Type} (write : τ → Json) (read : Json → Option ω)
    (list : Option Int → Option ω → Resolve (List τ)) : RootSelection := fun args => do
  let limit ← args.limit
  let filter ← args.optional read "where"
  return .ofList write (← Select.ofField (list limit filter))

def places : RootSelection := fun args => do
  let level ← args.optional PlaceLevel.ofJson? "level"
  limited Place.toJson PlaceFilter.ofJson? (Root.places · level ·) args

def me : RootSelection := fun _ => do
  return (← Select.ofField Root.me).toJson

def all : List (String × RootSelection) := [
  ("agencies", paged Agency.toJson AgencyFilter.ofJson? Root.agencies),
  ("routes", paged Route.toJson RouteFilter.ofJson? Root.routes),
  ("stops", paged Stop.toJson StopFilter.ofJson? Root.stops),
  ("trips", paged Trip.toJson TripFilter.ofJson? Root.trips),
  ("feeds", paged Feed.toJson FeedFilter.ofJson? Root.feeds),
  ("feed_versions", paged FeedVersion.toJson FeedVersionFilter.ofJson? Root.feedVersions),
  ("operators", paged Operator.toJson OperatorFilter.ofJson? Root.operators),
  ("census_datasets", paged CensusDataset.toJson CensusDatasetFilter.ofJson? Root.censusDatasets),
  ("places", places),
  ("vehicle_positions", limited (VehiclePosition.toJson Float32.toFloat)
    VehiclePositionFilter.ofJson? Root.vehiclePositions),
  ("bikes", limited FreeBike.toJson BikeRequest.ofJson? fun limit request =>
    Root.bikes limit (request.getD {})),
  ("docks", limited DockingStation.toJson DockRequest.ofJson? fun limit request =>
    Root.docks limit (request.getD {})),
  ("me", me)]

end RootSelection

end Transit
