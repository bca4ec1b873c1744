import Transit.Realtime.Message
import Transit.WideTime
set_option autoImplicit false

/-!
Arrivals and departures as clients see them: the scheduled time, and an estimate where realtime
data supports one.
-/

namespace Transit

open Realtime

structure StopTimeEvent where
  stopTimezone : String := ""
  scheduled : Option WideTime := none
  scheduledUtc : Option Instant := none
  scheduledUnix : Option Int := none
  scheduledLocal : Option LocalInstant := none
  estimated : Option WideTime := none
  estimatedUtc : Option Instant := none
  estimatedUnix : Option Int := none
  estimatedLocal : Option LocalInstant := none
  timeUtc : Option Instant := none
  delay : Option Int := none
  uncertainty : Option Int := none
  deriving DecidableEq, Repr, Inhabited

namespace StopTimeEvent

/-- The moment of the schedule, on the zone's clock. -/
def scheduledAt? (z : Zone) (serviceDate : Option Date) (scheduled : Option WideTime) :
    Option LocalInstant := do
  (← scheduled).onServiceDate? (← serviceDate) z

/-- A moment some seconds later, if it lies within the calendar. -/
def shift? (z : Zone) (t : LocalInstant) (seconds : Int) : Option LocalInstant :=
  (t.instant.later? seconds).map z.localize

/-- One side of a call. The estimate is the absolute time of the realtime event when it has one
that can be represented, else the schedule shifted by the event's delay, else the schedule shifted
by the delay of an earlier stop. A moment beyond the calendar is left out; `build?` says when the
program does not get that far. -/
def build (z : Zone) (serviceDate : Option Date) (scheduled : Option WideTime)
    (event : Option TimeEvent) (lastDelay : Option Int) : StopTimeEvent :=
  let at? := scheduledAt? z serviceDate scheduled
  let delay := event.bind (·.delay)
  let base : StopTimeEvent := {
    stopTimezone := z.name
    scheduled
    scheduledUtc := at?.map (·.instant)
    scheduledUnix := at?.map (·.instant.seconds)
    scheduledLocal := at?
    delay
    uncertainty := event.bind (·.uncertainty) }
  match (event.bind (·.time)).bind Instant.ofUnix? with
  | some t => { base with
      estimated := WideTime.ofInstant? t serviceDate z
      estimatedUtc := some t
      estimatedUnix := some t.seconds
      estimatedLocal := some (z.localize t)
      timeUtc := some t }
  | none =>
    match delay.or lastDelay with
    | some seconds =>
      let shifted := at?.bind (shift? z · seconds)
      { base with
        estimated := scheduled.bind (·.addSeconds? seconds)
        estimatedUtc := shifted.map (·.instant)
        estimatedUnix := shifted.map (·.instant.seconds)
        estimatedLocal := shifted }
    | none => base

/-- The moments that are counted for an event, in seconds: the midnight of its service date, the
schedule from there, and from the schedule an estimate that has no time of its own. -/
def counts (z : Zone) (serviceDate : Option Date) (scheduled : Option WideTime)
    (event : Option TimeEvent) (lastDelay : Option Int) : List Int :=
  match serviceDate.bind z.serviceMidnight? with
  | none => []
  | some midnight =>
    let start := midnight.instant.seconds
    match scheduled, (event.bind (·.time)).bind Instant.ofUnix? with
    | none, none => []
    | none, some _ => [start]
    | some t, some _ => [start, start + t.seconds]
    | some t, none =>
      [start, start + t.seconds] ++
        (((event.bind (·.delay)).or lastDelay).map (start + t.seconds + ·)).toList

/-- One side of a call, as far as the calendar goes: the program stops at a moment beyond it and
builds no event. -/
def build? (z : Zone) (serviceDate : Option Date) (scheduled : Option WideTime)
    (event : Option TimeEvent) (lastDelay : Option Int) : Option StopTimeEvent :=
  if (counts z serviceDate scheduled event lastDelay).all Instant.span.holds then
    some (build z serviceDate scheduled event lastDelay)
  else none

end StopTimeEvent

end Transit
