import Transit.Geo.Point
import Transit.Number.Binary
set_option autoImplicit false

/-!
On which side of a directed line a point lies, and where a point lies with respect to an area. The
side is the sign of a determinant that is computed without rounding.
-/

namespace Transit.Geo

inductive Orientation
  | clockwise
  | collinear
  | counterClockwise
  deriving DecidableEq, Repr

/-- A finite number in units of `2^unit`; exact when the unit is no larger than its own. -/
def units (unit : Int) (x : Float) : Int :=
  match Number.decode x with
  | .finite b => b.units unit
  | _ => 0

/-- The unit of a number's exact value. -/
def unitOf (x : Float) : Int :=
  match Number.decode x with
  | .finite b => b.exponent
  | _ => 0

/-- The turn at `b` on the way from `a` to `c`. -/
def orientation (a b c : Point) : Orientation :=
  let unit := [a.x, a.y, b.x, b.y, c.x].foldl (fun u x => min u (unitOf x)) (unitOf c.y)
  let x (p : Point) := units unit p.x
  let y (p : Point) := units unit p.y
  let det := (x a - x c) * (y b - y c) - (y a - y c) * (x b - x c)
  if det < 0 then .clockwise else if det == 0 then .collinear else .counterClockwise

inductive Position
  | inside
  | boundary
  | outside
  deriving DecidableEq, Repr

/-- The edges between consecutive points. -/
def edges (ring : List Point) : List (Point × Point) :=
  ring.zip (ring.drop 1)

def isBetween (v a b : Float) : Bool :=
  (a ≤ v && v ≤ b) || (b ≤ v && v ≤ a)

/-- What one edge adds to the number of times that a ring winds around a point; `none` when the
point lies on the edge. An upward edge counts without its end, a downward edge without its
start. -/
def winding? (p : Point) (edge : Point × Point) : Option Int :=
  let (a, b) := edge
  if a.y ≤ p.y then
    if p.y ≤ b.y then
      match orientation a b p with
      | .counterClockwise => if b.y == p.y then some 0 else some 1
      | .collinear => if isBetween p.x a.x b.x then none else some 0
      | .clockwise => some 0
    else some 0
  else if b.y ≤ p.y then
    match orientation a b p with
    | .clockwise => some (-1)
    | .collinear => if isBetween p.x a.x b.x then none else some 0
    | .counterClockwise => some 0
  else some 0

def positionInRing (p : Point) : List Point → Position
  | [] => .outside
  | [q] => if p.x == q.x && p.y == q.y then .boundary else .outside
  | ring =>
    match (edges ring).mapM (winding? p) with
    | none => .boundary
    | some turns => if turns.foldl (· + ·) 0 == 0 then .outside else .inside

/-- Inside the outer ring and outside of every hole. -/
def polygonContains (area : Polygon) (p : Point) : Bool :=
  positionInRing p area.exterior == .inside
    && area.interiors.all fun hole => positionInRing p hole == .outside

def multiPolygonContains (areas : List Polygon) (p : Point) : Bool :=
  areas.any (polygonContains · p)

end Transit.Geo
