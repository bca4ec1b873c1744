import Transit.Record.Scalar
set_option autoImplicit false

/-!
Shared bikes and docking stations.
-/

namespace Transit

/-- A bike that stands free. -/
structure FreeBike where
  feedOnestopId : String := ""
  bikeId : String := ""
  lon : Float := 0
  lat : Float := 0
  isReserved : Bool := false
  isDisabled : Bool := false
  vehicleTypeId : Option String := none
  deriving DecidableEq, Repr, Inhabited

def FreeBike.ofJson? (j : Json) : Option FreeBike := do
  let f ← j.fields?
  some {
    feedOnestopId := ← f.withDefault Json.readText "feed_onestop_id" ""
    bikeId := ← f.withDefault Json.readText "bike_id" ""
    lon := ← f.withDefault Json.readFloat "lon" 0
    lat := ← f.withDefault Json.readFloat "lat" 0
    isReserved := ← f.withDefault Json.readBool "is_reserved" false
    isDisabled := ← f.withDefault Json.readBool "is_disabled" false
    vehicleTypeId := ← f.optional Json.readText "vehicle_type_id" }

def FreeBike.toJson (f : FreeBike) : Json := .obj [
  ("feed_onestop_id", .str f.feedOnestopId),
  ("bike_id", .str f.bikeId),
  ("lon", .float f.lon),
  ("lat", .float f.lat),
  ("is_reserved", .bool f.isReserved),
  ("is_disabled", .bool f.isDisabled),
  ("vehicle_type_id", .ofOption .str f.vehicleTypeId)]

/-- A docking station. -/
structure DockingStation where
  feedOnestopId : String := ""
  stationId : String := ""
  name : String := ""
  lon : Float := 0
  lat : Float := 0
  capacity : Option Int := none
  numBikesAvailable : Option Int := none
  numDocksAvailable : Option Int := none
  deriving DecidableEq, Repr, Inhabited

def DockingStation.ofJson? (j : Json) : Option DockingStation := do
  let f ← j.fields?
  some {
    feedOnestopId := ← f.withDefault Json.readText "feed_onestop_id" ""
    stationId := ← f.withDefault Json.readText "station_id" ""
    name := ← f.withDefault Json.readText "name" ""
    lon := ← f.withDefault Json.readFloat "lon" 0
    lat := ← f.withDefault Json.readFloat "lat" 0
    capacity := ← f.optional Json.readInt32 "capacity"
    numBikesAvailable := ← f.optional Json.readInt32 "num_bikes_available"
    numDocksAvailable := ← f.optional Json.readInt32 "num_docks_available" }

def DockingStation.toJson (d : DockingStation) : Json := .obj [
  ("feed_onestop_id", .str d.feedOnestopId),
  ("station_id", .str d.stationId),
  ("name", .str d.name),
  ("lon", .float d.lon),
  ("lat", .float d.lat),
  ("capacity", .ofOption .int d.capacity),
  ("num_bikes_available", .ofOption .int d.numBikesAvailable),
  ("num_docks_available", .ofOption .int d.numDocksAvailable)]

/-- Which bikes are asked for. -/
structure BikeRequest where
  near : Option PointRadius := none
  deriving DecidableEq, Repr, Inhabited

def BikeRequest.ofJson? (j : Json) : Option BikeRequest := do
  let f ← j.fields?
  some {
    near := ← f.optional PointRadius.ofJson? "near" }

def BikeRequest.toJson (b : BikeRequest) : Json := .obj [
  ("near", .ofOption PointRadius.toJson b.near)]

/-- Which stations are asked for. -/
structure DockRequest where
  near : Option PointRadius := none
  deriving DecidableEq, Repr, Inhabited

def DockRequest.ofJson? (j : Json) : Option DockRequest := do
  let f ← j.fields?
  some {
    near := ← f.optional PointRadius.ofJson? "near" }

def DockRequest.toJson (d : DockRequest) : Json := .obj [
  ("near", .ofOption PointRadius.toJson d.near)]

end Transit
