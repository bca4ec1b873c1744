import Transit.Error
import Transit.Geo.Point
import Transit.Number.Text
set_option autoImplicit false

/-!
What becomes of the arguments that a client gives: limits and radii are brought into their range,
cursors are read, and boxes that are too large are refused.
-/

namespace Transit.Request

/-- The number of rows to return. A limit that is absent or not positive gives the default, and
nothing exceeds the maximum; the result is at least 1. -/
def checkLimit (limit : Option Int) (absent maximum : Nat) : Nat :=
  let maximum := max maximum 1
  match limit with
  | some n => if 0 < n then min n.toNat maximum else min (max absent 1) maximum
  | none => min (max absent 1) maximum

def readCursor (s : String) : Except FieldError Cursor :=
  match Cursor.decode s with
  | .ok c => .ok c
  | .error e => .error (.invalidInput e.message)

/-- The cursor after which a page begins; an absent or blank text means the beginning. -/
def checkCursor (after : Option String) : Except FieldError (Option Cursor) :=
  match (after.map Text.trim).filter (· != "") with
  | none => .ok none
  | some s => (readCursor s).map some

/-- Bring a number into a range; one that is no number becomes the lower end. -/
def checkFloat (value minimum maximum : Float) : Float :=
  if value.isNaN then minimum
  else
    let value := if value < minimum then minimum else value
    if maximum < value then maximum else value

def checkRadius (near : PointRadius) (maxRadius : Float) : PointRadius :=
  { near with radius := checkFloat near.radius 0.0 maxRadius }

/-- A box has to be smaller than a square over the greatest radius. -/
def checkBox (box : BoundingBox) (maxRadius : Float) : Except FieldError Unit :=
  let maxArea := maxRadius * maxRadius
  if box.area < maxArea then .ok ()
  else .error (.invalidInput ("bounding box too large: " ++ Number.fixed 0 box.area
    ++ " square meters (max " ++ Number.fixed 0 maxArea ++ ")"))

end Transit.Request
