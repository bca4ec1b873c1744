import Transit.Field.Route
import Transit.Field.StopTime
import Transit.Selection.Basic
set_option autoImplicit false

/-!
Two displays that are more than their records: rows of a stop together with what clients ask of each
row, and areas by their corners.
-/

namespace Transit

/-- A pair of coordinates as text. -/
abbrev Corner := String × String

namespace Corner

def ofPoint (p : Point) : Corner := (Number.fixed 6 p.x, Number.fixed 6 p.y)

def lt (a b : Corner) : Bool := a.1 < b.1 || (a.1 == b.1 && a.2 < b.2)

def toJson (c : Corner) : Json := .ofTexts [c.1, c.2]

/-- Without the last corner if it closes the ring. -/
def opened (ring : List Corner) : List Corner :=
  if 1 < ring.length && ring.head? == ring.getLast? then ring.dropLast else ring

/-- Without corners that repeat the one before. -/
def merged : List Corner → List Corner
  | a :: b :: rest => if a == b then merged (b :: rest) else a :: merged (b :: rest)
  | ring => ring

def least? (ring : List Corner) : Option Corner :=
  ring.foldl (fun best c => some (match best with
    | some b => if lt c b then c else b
    | none => c)) none

/-- The same ring, begun at its least corner. -/
def rotated (ring : List Corner) : List Corner :=
  match least? ring with
  | some c => ring.dropWhile (· != c) ++ ring.takeWhile (· != c)
  | none => ring

/-- The corners of a ring, each once, in its direction. -/
def ofRing (ring : List Point) : List Corner :=
  rotated (merged (opened (ring.map ofPoint)))

end Corner

/-- Areas by the corners of their outer rings. -/
def RouteStopBuffer.display (b : RouteStopBuffer) : Json :=
  let area (p : Polygon) : Json := .ofList Corner.toJson (Corner.ofRing p.exterior)
  .obj [
    ("stop_points", .ofOption (Json.ofList Point.toJson) b.stopPoints),
    ("stop_buffer", .ofOption area b.stopBuffer),
    ("stop_convexhull", .ofOption area b.stopConvexhull)]

namespace StopTime

/-- The answer to a field of a row, errors included. -/
def part {α : Type} (write : α → Json) (r : Resolve α) : Select Json :=
  Select.task (return Answer.toJson (← (Select.ofField (return write (← r))).answer))

/-- A row with its trip, its events and its relationship, each of which may fail on its own. -/
def expanded (r : StopTime) : Select Json := do
  let parts := [
    ("trip", ← part (Json.ofOption Trip.toJson) r.trip),
    ("arrival", ← part StopTimeEvent.toJson r.arrival),
    ("departure", ← part StopTimeEvent.toJson r.departure),
    ("relationship", ← part (Json.ofOption ScheduleRelationship.toJson) r.scheduleRelationship)]
  return match r.rowToJson with
    | .obj members => .obj (members ++ parts)
    | j => j

/-- Rows as they are, or expanded if the client asks for it. -/
def display (rows : List StopTime) (args : Args) : Select Json := do
  if ← args.withDefault Json.readBool "expand" false then return .arr (← rows.mapM expanded)
  else return .ofList rowToJson rows

/-- A field with rows of stop times. -/
def selection {α ω : Type} (read : Json → Option ω)
    (field : α → Option Int → Option ω → Resolve (List StopTime)) : Selection α :=
  fun a args => do
    let limit ← args.limit
    let filter ← args.optional read "where"
    display (← Select.ofField (field a limit filter)) args

end StopTime

end Transit
