set_option autoImplicit false

/-!
Points, lines and areas in degrees of longitude and latitude, distances between points over the
globe, and the circles and boxes that listings are restricted to.
-/

namespace Transit

/-- A place: `x` is its longitude and `y` its latitude, in degrees. -/
structure Point where
  x : Float := 0
  y : Float := 0
  deriving DecidableEq, Repr, Inhabited

/-- An area inside an outer ring, less the holes. Rings are kept as they are given. -/
structure Polygon where
  exterior : List Point
  interiors : List (List Point)
  deriving DecidableEq, Repr, Inhabited

/-- The places within a number of meters of another. -/
structure PointRadius where
  lon : Float
  lat : Float
  radius : Float
  deriving DecidableEq, Repr, Inhabited

structure BoundingBox where
  minLon : Float
  minLat : Float
  maxLon : Float
  maxLat : Float
  deriving DecidableEq, Repr, Inhabited

namespace Geo

/-- Mean radius of the Earth in meters. -/
def earthRadius : Float := 6371008.8

def pi : Float := 3.14159265358979323846264338327950288

def radians (degrees : Float) : Float :=
  degrees * (pi / 180.0)

/-- The distance of two places over the globe in meters, by the haversine formula. -/
def distance (a b : Point) : Float :=
  let latitude := radians (b.y - a.y)
  let longitude := radians (b.x - a.x)
  let s := Float.sin (latitude / 2.0)
  let t := Float.sin (longitude / 2.0)
  let h := s * s + Float.cos (radians a.y) * Float.cos (radians b.y) * (t * t)
  earthRadius * (2.0 * Float.asin (Float.sqrt h))

end Geo

def PointRadius.center (near : PointRadius) : Point := ⟨near.lon, near.lat⟩

def PointRadius.contains (near : PointRadius) (p : Point) : Bool :=
  Geo.distance near.center p ≤ near.radius

namespace BoundingBox

/-- The distance between the south-west and the north-east corner in meters. -/
def diagonal (box : BoundingBox) : Float :=
  Geo.distance ⟨box.minLon, box.minLat⟩ ⟨box.maxLon, box.maxLat⟩

/-- The area of a square with the same diagonal. -/
def area (box : BoundingBox) : Float :=
  let d := box.diagonal
  0.5 * d * d

def contains (box : BoundingBox) (p : Point) : Bool :=
  box.minLon ≤ p.x && p.x ≤ box.maxLon && box.minLat ≤ p.y && p.y ≤ box.maxLat

end BoundingBox

end Transit
