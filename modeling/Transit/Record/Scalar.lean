import Transit.Json.Fields
import Transit.WideTime
import Transit.Geo.Point
import Transit.Service.RelativeDate
set_option autoImplicit false

/-!
Dates, times and shapes as JSON values.
-/

namespace Transit

def Date.ofJson? (j : Json) : Option Date := do Date.ofText? (← Json.readText j)
def Date.toJson (d : Date) : Json := .str d.toText

def Instant.ofJson? (j : Json) : Option Instant := do Instant.ofText? (← Json.readText j)
def Instant.toJson (t : Instant) : Json := .str t.toText

def LocalInstant.toJson (t : LocalInstant) : Json := .str t.toText

def WideTime.ofJson? (j : Json) : Option WideTime := do
  match WideTime.parse (← Json.readText j) with
  | .ok t => some t
  | .error _ => none

def WideTime.toJson (t : WideTime) : Json := .str t.toText

def RelativeDate.ofJson? (j : Json) : Option RelativeDate := do
  RelativeDate.ofName? (← Json.readText j)

def RelativeDate.toJson (r : RelativeDate) : Json := .str r.name

def Point.ofJson? (j : Json) : Option Point := do
  let f ← j.fields?
  some { x := ← f.required Json.readFloat "x", y := ← f.required Json.readFloat "y" }

def Point.toJson (p : Point) : Json := .obj [("x", .float p.x), ("y", .float p.y)]

def Polygon.ofJson? (j : Json) : Option Polygon := do
  let f ← j.fields?
  some {
    exterior := ← f.required (Json.readList Point.ofJson?) "exterior"
    interiors := ← f.required (Json.readList (Json.readList Point.ofJson?)) "interiors" }

def Polygon.toJson (p : Polygon) : Json := .obj [
  ("exterior", .ofList Point.toJson p.exterior),
  ("interiors", .ofList (.ofList Point.toJson) p.interiors)]

def PointRadius.ofJson? (j : Json) : Option PointRadius := do
  let f ← j.fields?
  some {
    lon := ← f.required Json.readFloat "lon"
    lat := ← f.required Json.readFloat "lat"
    radius := ← f.required Json.readFloat "radius" }

def PointRadius.toJson (n : PointRadius) : Json := .obj [
  ("lon", .float n.lon), ("lat", .float n.lat), ("radius", .float n.radius)]

def BoundingBox.ofJson? (j : Json) : Option BoundingBox := do
  let f ← j.fields?
  some {
    minLon := ← f.required Json.readFloat "min_lon"
    minLat := ← f.required Json.readFloat "min_lat"
    maxLon := ← f.required Json.readFloat "max_lon"
    maxLat := ← f.required Json.readFloat "max_lat" }

def BoundingBox.toJson (b : BoundingBox) : Json := .obj [
  ("min_lon", .float b.minLon), ("min_lat", .float b.minLat),
  ("max_lon", .float b.maxLon), ("max_lat", .float b.maxLat)]

end Transit
