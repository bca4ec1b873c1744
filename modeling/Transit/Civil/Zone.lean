import Transit.Civil.Instant
set_option autoImplicit false

/-!
Time zones: the distance of a zone's clock from UTC over time, and the moments that a local date
and time of day stand for, of which there are none in a gap and two in an overlap.
-/

namespace Transit

/-- From a moment on, the clock is `offset` seconds ahead of UTC. -/
structure OffsetChange where
  moment : Int
  offset : Int
  deriving DecidableEq, Repr, Inhabited

/-- A zone: its distance from UTC before the first change, and the changes in order of time. -/
structure Zone where
  name : String
  base : Int
  changes : List OffsetChange
  deriving DecidableEq, Repr, Inhabited

/-- A stretch of time in which the distance from UTC is the same, open at an absent end. -/
structure OffsetSpan where
  start : Option Int
  stop : Option Int
  offset : Int
  deriving DecidableEq, Repr

namespace OffsetSpan

/-- The clock shows this local time, in seconds, at some moment of the stretch. -/
def shows (s : OffsetSpan) (clock : Int) : Bool :=
  (s.start.all fun t => t + s.offset ≤ clock) && (s.stop.all fun t => clock < t + s.offset)

end OffsetSpan

namespace Zone

/-- The stretches of equal offset that begin with one of offset `base` at `start`. -/
def spansFrom (start : Option Int) (base : Int) : List OffsetChange → List OffsetSpan
  | [] => [⟨start, none, base⟩]
  | c :: rest => ⟨start, some c.moment, base⟩ :: spansFrom (some c.moment) c.offset rest

def spans (z : Zone) : List OffsetSpan :=
  spansFrom none z.base z.changes

/-- The offset after those changes that have taken place. -/
def offsetAfter (base unix : Int) : List OffsetChange → Int
  | [] => base
  | c :: rest => if c.moment ≤ unix then offsetAfter c.offset unix rest else base

/-- The distance from UTC at a moment. -/
def offsetAt (z : Zone) (unix : Int) : Int :=
  offsetAfter z.base unix z.changes

/-- The offsets with which the zone's clock shows a local time, earliest moment first. -/
def offsetsShowing (z : Zone) (clock : Int) : List Int :=
  (z.spans.filter (·.shows clock)).map (·.offset)

/-- A moment on the zone's clock. -/
def localize (z : Zone) (t : Instant) : LocalInstant :=
  ⟨t, z.offsetAt t.seconds⟩

/-- The first moment at which the clock shows a time of day, in seconds, on a date. -/
def earliest? (z : Zone) (d : Date) (timeOfDay : Int) : Option LocalInstant :=
  let clock := d.day * secondsPerDay + timeOfDay
  (z.offsetsShowing clock).head?.map fun offset => ⟨⟨clock - offset, 0⟩, offset⟩

/-- The moment from which a service day of the zone is counted: the first local midnight of the
date, or twelve hours before the first local noon when the clock skips midnight. -/
def serviceMidnight? (z : Zone) (d : Date) : Option LocalInstant :=
  match z.earliest? d 0 with
  | some t => some t
  | none => (z.earliest? d 43200).map fun noon =>
      z.localize ⟨noon.instant.seconds - 43200, 0⟩

/-- The local date and the second of the local day at a moment. -/
def localNow (z : Zone) (t : Instant) : Date × Nat :=
  let clock := t.seconds + z.offsetAt t.seconds
  (⟨clock / secondsPerDay⟩, (clock % secondsPerDay).toNat)

end Zone

end Transit
