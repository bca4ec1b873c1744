import Transit.Proofs.Service.PlainTerms
import Transit.Warehouse.Matching
set_option autoImplicit false

/-!
# Bounds given twice

A filter may give the ends of its window as wide times, as second counts or as both. Where both are
given, rows are matched by the second count, while plain terms keep the wide time. So a filter and
its plain terms admit the same rows if and only if the two readings of its bounds admit the same
times (`normalize_matches_iff`), as they do whenever neither end is given twice with two values.
-/

namespace Transit

namespace StopTimeFilter

/-- The time is not before the one bound and is before the other. -/
def between (start stop : Option Int) (t : Int) : Bool :=
  start.all (· ≤ t) && stop.all (t < ·)

variable (f : StopTimeFilter)

def wideStart : Option Int := f.start.map fun t => (t.seconds : Int)
def wideStop : Option Int := f.stop.map fun t => (t.seconds : Int)

/-- No end of the window is given. -/
def unbounded : Bool :=
  (f.startTime.or f.wideStart).isNone && (f.endTime.or f.wideStop).isNone

/-- The times that the filter admits where second counts go first. -/
def admitsBySeconds (t : Int) : Bool :=
  between (f.startTime.or f.wideStart) (f.endTime.or f.wideStop) t

/-- The times that it admits where wide times go first. -/
def admitsByWide (t : Int) : Bool :=
  between (f.wideStart.or f.startTime) (f.wideStop.or f.endTime) t

/-- No end of the window is given twice with two values. -/
structure Unambiguous : Prop where
  start : ∀ t ∈ f.start, ∀ s ∈ f.startTime, s = t.seconds
  stop : ∀ t ∈ f.stop, ∀ s ∈ f.endTime, s = t.seconds

variable {f}

theorem or_comm_of_agree {a b : Option Int} (agree : ∀ x ∈ a, ∀ y ∈ b, y = x) :
    a.or b = b.or a := by
  cases a with
  | none => simp
  | some x =>
    cases b with
    | none => rfl
    | some y => exact congrArg some (agree x rfl y rfl).symm

theorem Unambiguous.admits (clear : f.Unambiguous) (t : Int) :
    f.admitsByWide t = f.admitsBySeconds t := by
  have start : f.wideStart.or f.startTime = f.startTime.or f.wideStart := by
    refine or_comm_of_agree fun x wide => ?_
    obtain ⟨time, given, rfl⟩ := Option.map_eq_some_iff.mp wide
    exact clear.start time given
  have stop : f.wideStop.or f.endTime = f.endTime.or f.wideStop := by
    refine or_comm_of_agree fun x wide => ?_
    obtain ⟨time, given, rfl⟩ := Option.map_eq_some_iff.mp wide
    exact clear.stop time given
  rw [admitsByWide, start, stop, admitsBySeconds]

theorem unambiguous_of_unbounded (none : f.unbounded = true) : f.Unambiguous := by
  simp only [unbounded, wideStart, wideStop, Option.isNone_or, Option.isNone_map,
    Bool.and_eq_true, Option.isNone_iff_eq_none] at none
  obtain ⟨⟨_, start⟩, _, stop⟩ := none
  exact ⟨by simp [start], by simp [stop]⟩

end StopTimeFilter

namespace Warehouse

open StopTimeFilter

/-- What a filter asks of the trip of a row. -/
def meetsTrip (w : Warehouse) (f : StopTimeFilter) (r : StopTime) : Bool :=
  !asksForTrip f || (w.trip? r.tripId).any fun trip =>
    f.serviceDate.all (w.runsOn trip.serviceId)
      && (f.routeOnestopIds.isEmpty
        || (w.route? trip.routeId).any fun route => f.routeOnestopIds.contains route.onestopId)
      && !(f.excludeFirst == some true && r.stopSequence == (w.sequenceRange r.tripId).1)
      && !(f.excludeLast == some true && r.stopSequence == (w.sequenceRange r.tripId).2)

theorem stopTimeMatches_eq (w : Warehouse) (f : StopTimeFilter) (r : StopTime) :
    w.stopTimeMatches f r = (inWindow f r && w.meetsTrip f r) :=
  rfl

variable {f : StopTimeFilter} {now : LocalNow} {window : Option ServiceWindow}

theorem inWindow_eq (f : StopTimeFilter) (r : StopTime) :
    inWindow f r = (f.unbounded || r.seconds?.any f.admitsBySeconds) :=
  rfl

theorem inWindow_normalize (direct : f.next = none) (r : StopTime) :
    inWindow (f.normalize now window) r = (f.unbounded || r.seconds?.any f.admitsByWide) := by
  have unbounded : ((f.wideStart.or f.startTime).isNone && (f.wideStop.or f.endTime).isNone) =
      f.unbounded := by
    simp [StopTimeFilter.unbounded, Bool.and_comm]
  rw [normalize_eq, direct, ← unbounded]
  simp only [inWindow, Option.map_none, Option.none_or, Option.or_none]
  rfl

theorem meetsTrip_normalize (asIs : f.useServiceWindow ≠ some true) (w : Warehouse) (r : StopTime) :
    w.meetsTrip (f.normalize now window) r = w.meetsTrip f r := by
  have unasked : f.useServiceWindow.getD false = false := by
    rcases use : f.useServiceWindow with _ | _ | _
    · rfl
    · rfl
    · exact absurd use asIs
  have same : f.serviceDate.map (f.placed window) = f.serviceDate := by
    have stays (d : Date) : f.placed window d = d := by
      cases window <;> simp [placed, unasked]
    cases f.serviceDate <;> simp [stays]
  rw [normalize_eq, same]
  rfl

/-- A call between the first and the last of a trip. -/
def midCall (t : Nat) : StopTime where
  tripId := 5
  stopSequence := 2
  departureTime := some ⟨t⟩

/-- A warehouse with that trip only, on a route and a date that a filter asks for. -/
def serving (f : StopTimeFilter) (t : Nat) : Warehouse where
  routes := [{ id := 3, onestopId := f.routeOnestopIds.headD "" }]
  trips := [{ id := 5, routeId := 3, serviceId := 1 }]
  calendarDates := f.serviceDate.toList.map fun d =>
    { serviceId := 1, date := d, exceptionType := 1 }
  stopTimes := [{ tripId := 5, stopSequence := 1 }, midCall t, { tripId := 5, stopSequence := 3 }]

theorem meetsTrip_serving (f : StopTimeFilter) (t : Nat) :
    (serving f t).meetsTrip f (midCall t) = true := by
  have range : (serving f t).sequenceRange 5 = (1, 3) := rfl
  have runs : f.serviceDate.all ((serving f t).runsOn 1) = true := by
    cases day : f.serviceDate <;> simp [runsOn, serving, day]
  have onRoute : (f.routeOnestopIds.isEmpty || ((serving f t).route? 3).any fun route =>
      f.routeOnestopIds.contains route.onestopId) = true := by
    cases ids : f.routeOnestopIds <;> simp [route?, serving, ids]
  have found : (serving f t).trip? 5 = some { id := 5, routeId := 3, serviceId := 1 } := rfl
  unfold meetsTrip
  simp only [midCall, found, Option.any_some, runs, onRoute, range]
  simp

/-- A filter that neither asks for the next seconds nor for the service window admits the same rows
of every warehouse as its plain terms do if and only if every time is admitted by both readings of
its bounds or by neither. So it does if no end of its window is given twice with two values. -/
theorem normalize_matches_iff (f : StopTimeFilter) (direct : f.next = none)
    (asIs : f.useServiceWindow ≠ some true) (now : LocalNow) (window : Option ServiceWindow) :
    ((∀ w r, stopTimeMatches w (f.normalize now window) r = stopTimeMatches w f r) ↔
      ∀ t : Nat, f.admitsByWide t = f.admitsBySeconds t) ∧
    (f.Unambiguous →
      ∀ w r, stopTimeMatches w (f.normalize now window) r = stopTimeMatches w f r) := by
  have same (w : Warehouse) (r : StopTime) :
      stopTimeMatches w (f.normalize now window) r = stopTimeMatches w f r ↔
        (w.meetsTrip f r = true → (f.unbounded || r.seconds?.any f.admitsByWide) =
          (f.unbounded || r.seconds?.any f.admitsBySeconds)) := by
    rw [stopTimeMatches_eq, stopTimeMatches_eq, meetsTrip_normalize asIs,
      inWindow_normalize direct, inWindow_eq]
    cases w.meetsTrip f r <;> simp
  have enough (agree : ∀ t : Nat, f.admitsByWide t = f.admitsBySeconds t) (w : Warehouse)
      (r : StopTime) : stopTimeMatches w (f.normalize now window) r = stopTimeMatches w f r := by
    refine (same w r).mpr fun _ => congrArg (f.unbounded || ·) ?_
    unfold StopTime.seconds?
    cases r.departureTime.or r.arrivalTime with
    | none => rfl
    | some t => exact agree t.seconds
  refine ⟨⟨fun matched t => ?_, enough⟩, fun clear => enough fun t => clear.admits t⟩
  -- Of a row whose trip meets the rest of the filter, only the bounds decide.
  have here := (same _ _).mp (matched (serving f t) (midCall t)) (meetsTrip_serving f t)
  cases open' : f.unbounded with
  | true => exact (unambiguous_of_unbounded open').admits t
  | false =>
    rw [open', Bool.false_or, Bool.false_or] at here
    exact here

/-- A window from 10:00:00 as a wide time to 11:00:00 as a second count. -/
def morningFilter : StopTimeFilter where
  start := some ⟨36000⟩
  endTime := some 39600

theorem normalize_matches_iff_of_morning :
    morningFilter.next = none ∧ morningFilter.useServiceWindow ≠ some true ∧
      morningFilter.Unambiguous ∧ ∀ w r,
        stopTimeMatches w (morningFilter.normalize ⟨⟨17681⟩, 0⟩ none) r =
          stopTimeMatches w morningFilter r := by
  have clear : morningFilter.Unambiguous := ⟨by rintro t ⟨⟩ s ⟨⟩, by rintro t ⟨⟩⟩
  have direct : morningFilter.next = none := rfl
  have asIs : morningFilter.useServiceWindow ≠ some true := by decide
  exact ⟨direct, asIs, clear,
    (normalize_matches_iff morningFilter direct asIs ⟨⟨17681⟩, 0⟩ none).2 clear⟩

/-- A window that begins at midnight by its seconds and at 10:00:00 by its wide time. -/
def mixedFilter : StopTimeFilter where
  serviceDate := some ⟨17681⟩
  startTime := some 0
  start := some ⟨36000⟩

/-- A call at 05:00:00 is in the window, but not in that of its plain terms. -/
theorem early_call_lost :
    stopTimeMatches (serving mixedFilter 18000) mixedFilter (midCall 18000) = true ∧
      stopTimeMatches (serving mixedFilter 18000) (mixedFilter.normalize ⟨⟨17681⟩, 0⟩ none)
        (midCall 18000) = false := by
  decide

end Warehouse

end Transit
