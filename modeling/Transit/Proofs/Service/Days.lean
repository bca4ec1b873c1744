import Transit.Proofs.Warehouse.Rows
import Transit.Service.Days
set_option autoImplicit false

/-!
# The service days of a query

A query for a date comes to one query for each service day that it touches (`mem_splitDays`). A row
that answers one of them has its time in the window of that day (`seconds_of_matches`), and carries
the day's date from then on (`StopTime.onDay`).
-/

namespace Transit

theorem Date.addDays?_ne {d : Date} {n : Int} (moves : n ≠ 0) : d.addDays? n ≠ some d := by
  intro same
  unfold addDays? at same
  split at same
  next =>
    have days : d.day + n = d.day := congrArg Date.day (Option.some.inj same)
    omega
  next => cases same

namespace StopTimeFilter

/-- The ends of the window around a date, in seconds from its midnight. -/
def opens (f : StopTimeFilter) : Int := f.startTime.getD 0
def closes (f : StopTimeFilter) : Int := f.endTime.getD daySeconds

def previousDay (f : StopTimeFilter) (date : Date) : StopTimeFilter :=
  f.onServiceDay date.previous? (Number.Range.int32.wrap (daySeconds + f.opens)) WideTime.maxQuery

def sameDay (f : StopTimeFilter) (date : Date) : StopTimeFilter :=
  f.onServiceDay (some date) (max f.opens 0) (min f.closes daySeconds)

def nextDay (f : StopTimeFilter) (date : Date) : StopTimeFilter :=
  f.onServiceDay date.next? 0 (f.closes - daySeconds)

theorem splitDays_of_dated {f : StopTimeFilter} {date : Date} (dated : f.date = some date)
    (lookbehind : Int) :
    f.splitDays lookbehind =
      (if f.opens < lookbehind then [f.previousDay date] else []) ++ [f.sameDay date] ++
        if daySeconds < f.closes then [f.nextDay date] else [] := by
  rw [splitDays, dated]
  rfl

theorem mem_splitDays {f day : StopTimeFilter} {date : Date} (dated : f.date = some date)
    (lookbehind : Int) :
    day ∈ f.splitDays lookbehind ↔
      (f.opens < lookbehind ∧ day = f.previousDay date) ∨ day = f.sameDay date ∨
        (daySeconds < f.closes ∧ day = f.nextDay date) := by
  rw [splitDays_of_dated dated]
  simp only [List.mem_append, List.mem_singleton, List.mem_ite_nil_right, or_assoc]

theorem saturatingAdd_of_holds {a b : Int} (fits : Number.Range.int32.holds (a + b) = true) :
    saturatingAdd a b = a + b := by
  obtain ⟨after, before⟩ := Number.Range.holds_iff.mp fits
  unfold saturatingAdd
  omega

end StopTimeFilter

namespace StopTime

/-- A row as the query of a service day returns it, with the date of the day if it has one. -/
def onDay (r : StopTime) (day : StopTimeFilter) : StopTime :=
  match day.serviceDate with
  | some d => r.stamp d
  | none => r

theorem onDay_of_date {day : StopTimeFilter} {d : Date} (known : day.serviceDate = some d)
    (r : StopTime) : r.onDay day = r.stamp d := by
  simp [onDay, known]

@[simp] theorem seconds_onDay (r : StopTime) (day : StopTimeFilter) :
    (r.onDay day).seconds? = r.seconds? := by
  unfold onDay
  split <;> rfl

end StopTime

namespace Warehouse

open StopTimeFilter

theorem seconds_of_matches {w : Warehouse} {f : StopTimeFilter} {d : Option Date} {start stop : Int}
    {r : StopTime} (holds : w.stopTimeMatches (f.onServiceDay d start stop) r = true) :
    ∃ t, r.seconds? = some t ∧ start ≤ t ∧ t < stop := by
  rw [stopTimeMatches, Bool.and_eq_true] at holds
  exact (inWindow_iff rfl rfl).mp holds.1

/-- Without further conditions a query for a service day is answered by the rows in its window whose
trips run on that day. -/
theorem matches_of_seconds {w : Warehouse} {date d : Date} {start stop from' to' t : Int}
    {r : StopTime} {trip : Trip} (known : w.trip? r.tripId = some trip)
    (runs : w.runsOn trip.serviceId d = true) (time : r.seconds? = some t) (after : from' ≤ t)
    (before : t < to') :
    w.stopTimeMatches (({ date := some date, startTime := some start, endTime := some stop } :
      StopTimeFilter).onServiceDay (some d) from' to') r = true := by
  rw [stopTimeMatches, Bool.and_eq_true]
  refine ⟨(inWindow_iff rfl rfl).mpr ⟨t, time, after, before⟩, ?_⟩
  simp [onServiceDay, known, runs]

end Warehouse

end Transit
