import Transit.Geo.Orientation
set_option autoImplicit false

/-!
Convex hulls by repeated choice of the farthest point, and the buffer around a set of points: the
hull of sixteen-sided circles around each of them. Where several points are equally far the last
one is chosen, so the order in which a partition leaves its points is part of the method.
-/

namespace Transit.Geo

/-- Order of points from west to east, then from south to north. -/
def before (a b : Point) : Bool :=
  a.x < b.x || (a.x == b.x && a.y < b.y)

/-- Exchange misplaced points from both ends until those with the property come first; the number
of those is the second result. `l` and `r` bound the part not yet looked at. -/
def partitionLoop (holds : Point → Bool) (fuel l r : Nat) (a : Array Point) : Array Point × Nat :=
  match fuel with
  | 0 => (a, l)
  | fuel + 1 =>
    if l < a.size && holds (a.getD l default) then partitionLoop holds fuel (l + 1) r a
    else if 0 < r && !holds (a.getD r default) then partitionLoop holds fuel l (r - 1) a
    else if r ≤ l then (a, l)
    else partitionLoop holds fuel l r (a.swapIfInBounds l r)

/-- The points with the property first, and their number. Every two rounds move an end inwards. -/
def partition (holds : Point → Bool) (a : Array Point) : Array Point × Nat :=
  if a.isEmpty then (a, 0) else partitionLoop holds (3 * a.size + 3) 0 (a.size - 1) a

/-- The position of the last of the greatest values. -/
def lastMaxIndex (value : Point → Float) (a : Array Point) : Nat :=
  (a.toList.zipIdx.foldl (fun (best : Option (Float × Nat)) (p, i) =>
    let v := value p
    match best with
    | some (top, _) => if v < top then best else some (v, i)
    | none => some (v, i)) none).elim 0 (·.2)

/-- The point at a position, with the first point moved to its place, and the others. -/
def takeOut (a : Array Point) (i : Nat) : Point × Array Point :=
  let swapped := a.swapIfInBounds 0 i
  (swapped.getD 0 default, swapped.extract 1 swapped.size)

/-- Replace the first points of an array. -/
def withFront (front : Array Point) (a : Array Point) : Array Point :=
  front ++ a.extract front.size a.size

/-- The corners of the hull strictly to the left of the way from `a` to `b`, from `b` back to `a`,
for points all to the left of it; and the points in their new order. Each choice takes one point
away, so the number of points is fuel enough. -/
def hullSide (fuel : Nat) (a b : Point) (set : Array Point) : List Point × Array Point :=
  match fuel with
  | 0 => ([], set)
  | fuel + 1 =>
    if set.isEmpty then ([], set)
    else if set.size == 1 then (set.toList, set)
    else
      let nx := a.y - b.y
      let ny := b.x - a.x
      let far (p : Point) := nx * (p.x - a.x) + ny * (p.y - a.y)
      let (top, rest) := takeOut set (lastMaxIndex far set)
      let (rest, n) := partition (fun p => orientation top b p == .counterClockwise) rest
      let (left, front) := hullSide fuel top b (rest.extract 0 n)
      let rest := withFront front rest
      let (rest, n) := partition (fun p => orientation a top p == .counterClockwise) rest
      let (right, front) := hullSide fuel a top (rest.extract 0 n)
      let rest := withFront front rest
      (left ++ top :: right, #[top] ++ rest)

/-- A ring closed by a repetition of its first point. -/
def close : List Point → List Point
  | [] => []
  | p :: rest =>
    let last := (p :: rest).getLast?.getD p
    if p.x == last.x && p.y == last.y then p :: rest else p :: rest ++ [p]

/-- Insertion into a list in the order of `before`. -/
def insertPoint (p : Point) : List Point → List Point
  | [] => [p]
  | q :: rest => if before p q then p :: q :: rest else q :: insertPoint p rest

/-- The hull of fewer than four points, counter-clockwise. -/
def smallHull (points : List Point) : List Point :=
  match points.foldl (fun sorted p => insertPoint p sorted) [] with
  | [a, b, c] =>
    match orientation a b c with
    | .collinear => close [a, c]
    | .counterClockwise => close [a, b, c]
    | .clockwise => [a, c, b, a]
  | [a] => [a, a]
  | ps => close ps

/-- The positions of the first least and the first greatest point. -/
def extremes (a : Array Point) : Nat × Nat :=
  a.toList.zipIdx.foldl (fun (lo, hi) (p, i) =>
    (if before p (a.getD lo default) then i else lo,
     if before (a.getD hi default) p then i else hi)) (0, 0)

/-- The convex hull as a closed ring, counter-clockwise. -/
def convexHull (points : List Point) : List Point :=
  if points.length < 4 then smallHull points
  else
    let all := points.toArray
    let (lo, hi) := extremes all
    let (least, rest) := takeOut all lo
    let hi := if hi == 0 then lo else hi
    let (greatest, rest) := takeOut rest (hi - 1)
    let (rest, n) := partition (fun p => orientation greatest least p == .counterClockwise) rest
    let (upper, front) := hullSide n greatest least (rest.extract 0 n)
    let rest := withFront front rest
    let (rest, n) := partition (fun p => orientation least greatest p == .counterClockwise) rest
    let (lower, _) := hullSide n least greatest (rest.extract 0 n)
    close (upper ++ greatest :: lower ++ [least])

/-- Meters in a degree of latitude. -/
def metersPerDegree : Float := 111320.0

def circleSides : Nat := 16

/-- Points on a circle of a radius in meters. A degree of longitude shrinks towards the poles, but
is never taken to be less than a hundredth of one of latitude. -/
def circle (radius : Float) (p : Point) : List Point :=
  let dlat := radius / metersPerDegree
  let c := Float.cos (radians p.y)
  let dlon := dlat / (if c < 0.01 then 0.01 else c)
  (List.range circleSides).map fun i =>
    let a := 2.0 * pi * i.toFloat / circleSides.toFloat
    ⟨p.x + dlon * Float.cos a, p.y + dlat * Float.sin a⟩

/-- The hull of the circles around the points. -/
def buffer (radius : Float) (points : List Point) : List Point :=
  convexHull (points.flatMap (circle radius))

end Transit.Geo
