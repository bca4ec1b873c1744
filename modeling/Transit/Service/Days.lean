import Transit.Record.Filter
import Transit.Record.Trip
import Transit.Service.Window
set_option autoImplicit false

/-!
Queries for the stop times of a calendar date. A filter is first put into plain terms of service
days, then split over the service days whose trips may run on the date.
-/

namespace Transit

/-- The local date and the second of the day. -/
structure LocalNow where
  date : Date
  seconds : Int
  deriving DecidableEq, Repr, Inhabited

namespace StopTimeFilter

def daySeconds : Int := 86400

/-- How far into the previous service day a query looks unless it is told otherwise. -/
def defaultLookbehind : Int := 21600

/-- A sum held within 32 bits. -/
def saturatingAdd (a b : Int) : Int :=
  max Number.Range.int32.lo (min Number.Range.int32.hi (a + b))

/-- Wide times become second counts. -/
def withPlainTimes (f : StopTimeFilter) : StopTimeFilter :=
  { f with
    startTime := (f.start.map fun t => (t.seconds : Int)).or f.startTime
    endTime := (f.stop.map fun t => (t.seconds : Int)).or f.endTime
    start := none
    stop := none }

/-- A relative date becomes a calendar date. -/
def withPlainDate (f : StopTimeFilter) (now : LocalNow) : StopTimeFilter :=
  { f with date := (f.relativeDate.map (·.resolve now.date)).or f.date }

/-- `next` becomes a window that begins now, today unless there is a date. -/
def withPlainNext (f : StopTimeFilter) (now : LocalNow) : StopTimeFilter :=
  match f.next with
  | none => f
  | some next => { f with
      date := f.date.or (some now.date)
      startTime := some now.seconds
      endTime := some (saturatingAdd now.seconds next) }

/-- Dates are mapped into the service window, if the filter asks for it and there is one. -/
def withMappedDates (f : StopTimeFilter) (window : Option ServiceWindow) : StopTimeFilter :=
  match window with
  | some w =>
    if f.useServiceWindow.getD false then
      { f with date := f.date.map w.mapDate, serviceDate := f.serviceDate.map w.mapDate }
    else f
  | none => f

/-- A filter in plain terms of dates and seconds. -/
def normalize (f : StopTimeFilter) (now : LocalNow) (window : Option ServiceWindow) :
    StopTimeFilter :=
  (((f.withPlainTimes).withPlainDate now).withPlainNext now).withMappedDates window

/-- The same filter on one service day, between two times of that day. -/
def onServiceDay (f : StopTimeFilter) (serviceDate : Option Date) (start stop : Int) :
    StopTimeFilter :=
  { f with serviceDate, date := none, startTime := some start, endTime := some stop }

/-- The queries that a filter with a calendar date comes to: the previous service day if the window
begins early enough, the day itself, and the next if the window runs past midnight. Each has the
window in terms of its own day. A filter without a date stays as it is. -/
def splitDays (f : StopTimeFilter) (lookbehind : Int) : List StopTimeFilter :=
  match f.date with
  | none => [f]
  | some date =>
    let start := f.startTime.getD 0
    let stop := f.endTime.getD daySeconds
    let previous :=
      if start < lookbehind then
        [f.onServiceDay date.previous? (Number.Range.int32.wrap (daySeconds + start))
          WideTime.maxQuery]
      else []
    let next :=
      if daySeconds < stop then [f.onServiceDay date.next? 0 (stop - daySeconds)] else []
    previous ++ [f.onServiceDay (some date) (max start 0) (min stop daySeconds)] ++ next

end StopTimeFilter

/-- Stamp a row with its service date and with the date on which it is served: the next day when it
arrives, or else departs, at or after 24:00:00. -/
def StopTime.stamp (r : StopTime) (serviceDate : Date) : StopTime :=
  let late := (r.arrivalTime.or r.departureTime).any (·.isAfterMidnight)
  { r with
    serviceDate := some serviceDate
    date := if late then serviceDate.next? else some serviceDate }

/-- The trip id of rows that stand for trips outside the schedule. -/
def StopTime.addedTripId : Int := 0

/-- The row stands for a trip outside the schedule. -/
def StopTime.isAdded (r : StopTime) : Bool :=
  r.tripId == StopTime.addedTripId && r.rtTripId.isSome

end Transit
