import Transit.Record.Feed
set_option autoImplicit false

/-!
Service windows: the dates over which a feed version is representative, and the best week in them,
whose days stand in for other dates. A window is taken from a stored record, or worked out from the
weekly service levels.
-/

namespace Transit

/-- `bestWeek` is the first day of the busiest week. -/
structure ServiceWindow where
  startDate : Date
  endDate : Date
  bestWeek : Date
  deriving DecidableEq, Repr, Inhabited

/-- Seconds of service in a week, in a word of 64 bits. -/
def ServiceLevel.total (l : ServiceLevel) : Int :=
  Number.Range.int64.wrap
    (l.monday + l.tuesday + l.wednesday + l.thursday + l.friday + l.saturday + l.sunday)

/-- The week has a date in it. -/
def ServiceLevel.covers (l : ServiceLevel) (d : Date) : Bool :=
  l.startDate ≤ d && d ≤ l.endDate

namespace ServiceWindow

def contains (w : ServiceWindow) (d : Date) : Bool :=
  w.startDate ≤ d && d ≤ w.endDate

/-- A date inside the window stays; another is replaced by the day of the best week that is as many
days after its first day as the date is after a Monday. -/
def mapDate (w : ServiceWindow) (d : Date) : Date :=
  if w.contains d then d else ⟨w.bestWeek.day + d.weekday⟩

/-- The window of a stored record, if the record holds enough. Dates that the feed declares count
before those of its calendars. -/
def ofRecord? (r : ServiceWindowRecord) : Option ServiceWindow := do
  some {
    startDate := ← r.feedStartDate.or r.earliestCalendarDate
    endDate := ← r.feedEndDate.or r.latestCalendarDate
    bestWeek := ← r.fallbackWeek }

/-- Less than three quarters of the busiest week. -/
def isPoor (total highest : Int) : Bool :=
  Number.Range.int64.wrap (total * 4) < Number.Range.int64.wrap (highest * 3)

/-- The busiest week, the first of several: its total and its position. -/
def busiest (weeks : List ServiceLevel) : Int × Nat :=
  weeks.zipIdx.foldl (fun (best : Int × Nat) (w, i) =>
    if best.1 < w.total then (w.total, i) else best) (-1, 0)

/-- The position of the last week that covers a date. -/
def lastCovering? (weeks : List ServiceLevel) (d : Date) : Option Nat :=
  (weeks.zipIdx.filter fun (w, _) => w.covers d).getLast?.map (·.2)

/-- The week from which the window grows: the one fetched in, unless there is none or it is poor;
then the busiest. -/
def chosenWeek (weeks : List ServiceLevel) (fetched : Date) : Nat :=
  let (highest, top) := busiest weeks
  let chosen := (lastCovering? weeks fetched).getD top
  if isPoor ((weeks[chosen]?.map (·.total)).getD 0) highest then top else chosen

/-- The dates from the chosen week on both sides up to the next poor week. -/
def grow (weeks : List ServiceLevel) (fetched : Date) : Date × Date :=
  let (highest, _) := busiest weeks
  let chosen := chosenWeek weeks fetched
  let rich (w : ServiceLevel) := !isPoor w.total highest
  let week := weeks[chosen]?.getD {}
  let later := (weeks.drop chosen).takeWhile rich
  let earlier := (weeks.take chosen).reverse.takeWhile rich
  let (start, stop) := later.foldl (fun (range : Date × Date) w =>
    (range.1.min w.startDate, w.endDate)) (week.startDate, week.endDate)
  earlier.foldl (fun (range : Date × Date) w => (w.startDate, range.2.max w.endDate)) (start, stop)

/-- The dates that a feed declares for itself, if it declares both. -/
def declared? (info : Option FeedInfo) : Option (Date × Date) := do
  let info ← info
  some (← info.feedStartDate, ← info.feedEndDate)

/-- The first day of the busiest week that overlaps some dates. The first week of all stands until
a busier one is found. -/
def bestWeekIn (first : ServiceLevel) (weeks : List ServiceLevel) (start stop : Date) : Date :=
  (weeks.foldl (fun (best : Int × Date) w =>
    if w.startDate ≤ stop && start ≤ w.endDate && best.1 < w.total then (w.total, w.startDate)
    else best) (first.total, first.startDate)).2

/-- A window worked out from service levels; none without any. -/
def derive? (fetched : Date) (info : Option FeedInfo) (levels : List ServiceLevel) :
    Option ServiceWindow :=
  let weeks := levels.mergeSort fun a b => a.startDate ≤ b.startDate
  match weeks with
  | [] => none
  | first :: _ =>
    let (start, stop) := (declared? info).getD (grow weeks fetched)
    some ⟨start, stop, bestWeekIn first weeks start stop⟩

end ServiceWindow

end Transit
