set_option autoImplicit false

/-!
Cost accounting: events of named meters, each tagged with the dimensions that its meter has when
the event is reported.
-/

namespace Transit

structure Dimension where
  meter : String
  key : String
  value : String
  deriving DecidableEq, Repr, Inhabited

structure MeterEvent where
  name : String
  value : Float
  dimensions : List (String × String)
  deriving DecidableEq, Repr, Inhabited

structure Meter where
  dimensions : List Dimension := []
  events : List MeterEvent := []
  deriving DecidableEq, Repr, Inhabited

namespace Meter

def addDimension (m : Meter) (d : Dimension) : Meter :=
  { m with dimensions := m.dimensions ++ [d] }

/-- Report an event. The dimensions of its meter come before its own. -/
def report (m : Meter) (name : String) (value : Float) (dimensions : List (String × String)) :
    Meter :=
  let tags := (m.dimensions.filter (·.meter == name)).map fun d => (d.key, d.value)
  { m with events := m.events ++ [⟨name, value, tags ++ dimensions⟩] }

end Meter

end Transit
