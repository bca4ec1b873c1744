import Transit.Proofs.Civil.ServiceMidnight
import Transit.Proofs.Field.DateWindow
set_option autoImplicit false

/-!
# The window of the next seconds

A filter for the next seconds asks for the times of day from the local time of now on, while rows
have their times in seconds since the midnight of the service day. The rows that it selects leave
in a window that is off by as much as the clock has been moved since midnight.
`next_window_anchored_iff` says by how much, and that the window begins now exactly if the offset
is still that of the day.
-/

namespace Transit

namespace StopTime

/-- The row leaves, or else arrives, within some seconds from a moment on. -/
def LeavesIn (r : StopTime) (d : Date) (z : Zone) (start seconds : Int) : Prop :=
  ∃ at', (r.departureTime.or r.arrivalTime).bind (·.momentOn? d z) = some at' ∧
    start ≤ at'.instant.seconds ∧ at'.instant.seconds < start + seconds

theorem leavesIn_iff {r : StopTime} {d : Date} {z : Zone} {start seconds : Int} :
    r.LeavesIn d z start seconds ↔
      ∃ offset t, z.dayOffset? d = some offset ∧ r.seconds? = some t ∧
        start ≤ d.day * secondsPerDay - offset + t ∧
        d.day * secondsPerDay - offset + t < start + seconds := by
  simp only [LeavesIn, StopTime.seconds?, WideTime.momentOn?_eq, Option.bind_eq_some_iff,
    Option.map_eq_some_iff]
  constructor
  · rintro ⟨_, ⟨t, time, offset, known, rfl⟩, after, before⟩
    exact ⟨offset, t.seconds, known, ⟨t, time, rfl⟩, after, before⟩
  · rintro ⟨offset, _, known, ⟨t, time, rfl⟩, after, before⟩
    exact ⟨_, ⟨t, time, offset, known, rfl⟩, after, before⟩

end StopTime

namespace Warehouse

/-- A row at a stop of a feed version whose trip runs on a date. -/
def ServesOn (w : Warehouse) (key : Int × Int) (d : Date) (r : StopTime) : Prop :=
  r ∈ w.stopTimes ∧ r.feedVersionId = key.1 ∧ r.stopId = key.2 ∧
    ∃ trip, w.trip? r.tripId = some trip ∧ w.runsOn trip.serviceId d = true

/-- A row at a stop that one of the queries selects for a service date. -/
def SelectedOn (w : Warehouse) (days : List StopTimeFilter) (key : Int × Int) (d : Date)
    (r : StopTime) : Prop :=
  ∃ day ∈ days, day.serviceDate = some d ∧ r ∈ w.rowsAt key (some day)

/-- Without conditions on the route or the place in the trip, a query for a service day selects the
rows of that day in its window. -/
theorem mem_rowsAt_onServiceDay {w : Warehouse} {key : Int × Int} {f : StopTimeFilter} {d : Date}
    {start stop : Int} {r : StopTime} (anyRoute : f.routeOnestopIds = [])
    (withFirst : f.excludeFirst = none) (withLast : f.excludeLast = none) :
    r ∈ w.rowsAt key (some (f.onServiceDay (some d) start stop)) ↔
      w.ServesOn key d r ∧ ∃ t, r.seconds? = some t ∧ start ≤ t ∧ t < stop := by
  have runs : w.stopTimeMatches (f.onServiceDay (some d) start stop) r = true ↔
      (∃ t, r.seconds? = some t ∧ start ≤ t ∧ t < stop) ∧
        ∃ trip, w.trip? r.tripId = some trip ∧ w.runsOn trip.serviceId d = true := by
    rw [stopTimeMatches, Bool.and_eq_true, inWindow_iff rfl rfl]
    simp [asksForTrip, StopTimeFilter.onServiceDay, anyRoute, withFirst, withLast, Option.any_eq_true]
  rw [mem_rowsAt, runs, ServesOn]
  tauto

end Warehouse

namespace StopTimeFilter

/-- The queries for the next seconds, on the clock of a zone. -/
def nextDays (next : Int) (z : Zone) (now : Instant) (window : Option ServiceWindow)
    (lookbehind : Int) : List StopTimeFilter :=
  (({ next := some next } : StopTimeFilter).normalize
    ⟨(z.localNow now).1, (z.localNow now).2⟩ window).splitDays lookbehind

variable {next : Int} {z : Zone} {now : Instant} {window : Option ServiceWindow} {lookbehind : Int}

/-- As long as the window ends today, the query for today asks for the times from the local time of
now on, and no other query is for today. -/
theorem selectedOn_nextDays (nonneg : 0 ≤ next) (ends : (z.localNow now).2 + next ≤ daySeconds)
    (w : Warehouse) (key : Int × Int) (r : StopTime) :
    w.SelectedOn (nextDays next z now window lookbehind) key (z.localNow now).1 r ↔
      w.ServesOn key (z.localNow now).1 r ∧
        ∃ t, r.seconds? = some t ∧ (z.localNow now).2 ≤ t ∧ t < (z.localNow now).2 + next := by
  let plain : StopTimeFilter := {
    next := some next
    date := some (z.localNow now).1
    startTime := some (z.localNow now).2
    endTime := some (saturatingAdd (z.localNow now).2 next) }
  have unsaturated : saturatingAdd (z.localNow now).2 next = (z.localNow now).2 + next := by
    refine saturatingAdd_of_holds (Number.Range.holds_iff.mpr ?_)
    simp only [Number.Range.int32, daySeconds] at ends ⊢
    omega
  have opened : plain.opens = (z.localNow now).2 := rfl
  have closed : plain.closes = (z.localNow now).2 + next := unsaturated
  have days : nextDays next z now window lookbehind = plain.splitDays lookbehind := by
    cases window <;> rfl
  have isDay : plain.sameDay (z.localNow now).1 =
      plain.onServiceDay (some (z.localNow now).1) (z.localNow now).2
        ((z.localNow now).2 + next) := by
    rw [sameDay, opened, closed, max_eq_left (Int.natCast_nonneg _), min_eq_left ends]
  rw [← Warehouse.mem_rowsAt_onServiceDay (f := plain) rfl rfl rfl, ← isDay, days]
  constructor
  · rintro ⟨day, inDays, isToday, selected⟩
    rcases (mem_splitDays rfl lookbehind).mp inDays with ⟨_, rfl⟩ | rfl | ⟨late, _⟩
    · exact absurd isToday (Date.addDays?_ne (by decide))
    · exact selected
    · omega
  · intro selected
    exact ⟨_, (mem_splitDays rfl lookbehind).mpr (.inr (.inl rfl)), rfl, selected⟩

end StopTimeFilter

namespace Stop

open StopTimeFilter

/-- A trip of the one stop, whatever the date on which it runs. -/
theorem servesOn_nightGateway (d : Date) (seconds : Nat) :
    (nightGateway [d] [leaving seconds]).warehouse.ServesOn (1, 7) d (leaving seconds) := by
  refine ⟨List.mem_singleton_self _, rfl, rfl, _, rfl, ?_⟩
  simp [nightGateway, Warehouse.runsOn]

variable {z : Zone} {unix next : Int}

/-- If every window were anchored at now, the first and the last second of this one would leave in
it, so the day would have the offset of now. -/
theorem dayOffset?_of_anchored {d : Date} {second : Nat} (positive : 0 < next)
    (clock : d.day * secondsPerDay + second = unix + z.offsetAt unix)
    (anchored : ∀ (w : Warehouse) key r, (w.ServesOn key d r ∧
        ∃ t, r.seconds? = some t ∧ second ≤ t ∧ t < second + next) ↔
      w.ServesOn key d r ∧ r.LeavesIn d z unix next) :
    z.dayOffset? d = some (z.offsetAt unix) := by
  have leaves (t : Nat) (after : (second : Int) ≤ t) (before : (t : Int) < second + next) :
      ∃ offset, z.dayOffset? d = some offset ∧ unix ≤ d.day * secondsPerDay - offset + t ∧
        d.day * secondsPerDay - offset + t < unix + next := by
    obtain ⟨_, inWindow⟩ := (anchored _ (1, 7) (leaving t)).mp
      ⟨servesOn_nightGateway d t, t, rfl, after, before⟩
    obtain ⟨offset, _, known, ⟨⟩, bounds⟩ := StopTime.leavesIn_iff.mp inWindow
    exact ⟨offset, known, bounds⟩
  obtain ⟨offset, known, first, _⟩ := leaves second le_rfl (by omega)
  obtain ⟨_, again, _, last⟩ := leaves (second + (next.toNat - 1)) (by omega) (by omega)
  obtain rfl := Option.some.inj (known.symm.trans again)
  rw [known]
  congr 1
  omega

/-- The time of day of now, on today's service date, is now if and only if the service day has the
offset of now. -/
theorem momentOn?_localNow_iff (z : Zone) (unix : Int) :
    let now : Instant := ⟨unix, 0⟩
    (⟨(z.localNow now).2⟩ : WideTime).momentOn? (z.localNow now).1 z = some (z.localize now) ↔
      z.dayOffset? (z.localNow now).1 = some (z.offsetAt unix) := by
  intro now
  have clock : (z.localNow now).1.day * secondsPerDay + (z.localNow now).2 =
      unix + z.offsetAt unix := z.localNow_clock now
  rw [WideTime.momentOn?_eq]
  constructor
  · intro isNow
    obtain ⟨offset, known, atNow⟩ := Option.map_eq_some_iff.mp isNow
    have seconds : (z.localNow now).1.day * secondsPerDay - offset + (z.localNow now).2 = unix :=
      congrArg (·.instant.seconds) atNow
    rw [known]
    congr 1
    omega
  · intro same
    have seconds : (z.localNow now).1.day * secondsPerDay - z.offsetAt unix +
        (z.localNow now).2 = unix := by
      omega
    rw [same, Option.map_some, seconds]

/-- A window of the next seconds that ends today selects, of the rows of today, those that leave in
a window of its length, which begins as much after now as the clock has been moved on since
midnight. It is anchored at now if and only if the offset of now is that of the day, and so is the
time of day of now on today's date. -/
theorem next_window_anchored_iff (z : Zone) (unix next : Int) (nonneg : 0 ≤ next)
    (ends : (z.localNow ⟨unix, 0⟩).2 + next ≤ daySeconds) (window : Option ServiceWindow)
    (lookbehind : Int) :
    let now : Instant := ⟨unix, 0⟩
    let today := (z.localNow now).1
    let days := nextDays next z now window lookbehind
    (z.Regular → ∃ offset, z.dayOffset? today = some offset) ∧
    (∀ offset, z.dayOffset? today = some offset → ∀ (w : Warehouse) key r,
      w.SelectedOn days key today r ↔
        w.ServesOn key today r ∧ r.LeavesIn today z (unix + (z.offsetAt unix - offset)) next) ∧
    ((∀ (w : Warehouse) key r,
      w.SelectedOn days key today r ↔ w.ServesOn key today r ∧ r.LeavesIn today z unix next) ↔
        next = 0 ∨ z.dayOffset? today = some (z.offsetAt unix)) ∧
    ((⟨(z.localNow now).2⟩ : WideTime).momentOn? today z = some (z.localize now) ↔
      z.dayOffset? today = some (z.offsetAt unix)) ∧
    (Instant.span.holds unix = true →
      ((⟨(z.localNow now).2⟩ : WideTime).onServiceDate? today z = some (z.localize now) ↔
        z.dayOffset? today = some (z.offsetAt unix))) := by
  intro now today days
  have clock : today.day * secondsPerDay + (z.localNow now).2 = unix + z.offsetAt unix :=
    z.localNow_clock now
  have selected (w : Warehouse) (key : Int × Int) (r : StopTime) :
      w.SelectedOn days key today r ↔ w.ServesOn key today r ∧ ∃ t, r.seconds? = some t ∧
        (z.localNow now).2 ≤ t ∧ t < (z.localNow now).2 + next :=
    selectedOn_nextDays nonneg ends w key r
  have shifted : ∀ offset, z.dayOffset? today = some offset → ∀ (w : Warehouse) key r,
      w.SelectedOn days key today r ↔
        w.ServesOn key today r ∧ r.LeavesIn today z (unix + (z.offsetAt unix - offset)) next := by
    intro offset known w key r
    rw [selected, StopTime.leavesIn_iff]
    refine and_congr_right fun _ => ⟨?_, ?_⟩
    · rintro ⟨t, time, after, before⟩
      exact ⟨offset, t, known, time, by omega, by omega⟩
    · rintro ⟨_, t, again, time, after, before⟩
      obtain rfl := Option.some.inj (known.symm.trans again)
      exact ⟨t, time, by omega, by omega⟩
  refine ⟨fun regular => z.exists_dayOffset regular now, shifted, ⟨?_, ?_⟩,
    momentOn?_localNow_iff z unix, ?_⟩
  · intro anchored
    rcases Int.lt_or_eq_of_le nonneg with positive | empty
    · refine .inr (dayOffset?_of_anchored positive clock fun w key r => ?_)
      rw [← selected, anchored]
    · exact .inl empty.symm
  · rintro (rfl | same) w key r
    · -- no time is in an empty window
      rw [selected, StopTime.leavesIn_iff]
      refine and_congr_right fun _ => ⟨?_, ?_⟩
      · rintro ⟨t, _, after, before⟩
        omega
      · rintro ⟨_, t, _, _, after, before⟩
        omega
    · rw [shifted _ same, Int.sub_self, Int.add_zero]
  · intro within
    rw [WideTime.onServiceDate?_eq_some_iff]
    exact (and_iff_left within).trans (momentOn?_localNow_iff z unix)

/-- At noon of the day on which New York moves its clocks on by an hour the window of the next hour
begins an hour after now. -/
theorem next_window_anchored_iff_of_spring :
    let z := Zone.newYork
    let now : Instant := ⟨1710086400, 0⟩
    (0 : Int) ≤ 3600 ∧ (z.localNow now).2 + 3600 ≤ daySeconds ∧
      z.dayOffset? (z.localNow now).1 = some (-18000) ∧ z.offsetAt now.seconds = -14400 ∧
      (∀ (w : Warehouse) key r,
        w.SelectedOn (nextDays 3600 z now none 21600) key (z.localNow now).1 r ↔
          w.ServesOn key (z.localNow now).1 r ∧
            r.LeavesIn (z.localNow now).1 z (1710086400 + 3600) 3600) ∧
      (⟨(z.localNow now).2⟩ : WideTime).onServiceDate? (z.localNow now).1 z ≠
        some (z.localize now) := by
  intro z now
  have ends : (z.localNow now).2 + 3600 ≤ daySeconds := by decide +kernel
  have offset : z.dayOffset? (z.localNow now).1 = some (-18000) := by decide +kernel
  have current : z.offsetAt now.seconds = -14400 := by decide +kernel
  obtain ⟨_, shifted, _, _, isNow⟩ := next_window_anchored_iff z 1710086400 3600 (by decide) ends none
    21600
  refine ⟨by decide, ends, offset, current, ?_, ?_⟩
  · have window := shifted (-18000) offset
    rw [current] at window
    exact window
  · rw [ne_eq, isNow (by decide), offset, current]
    decide

/-- A stop in New York, and a gateway at noon of the day on which the clocks were moved on. -/
def springStop : Stop := { nightStop with stopTimezone := "America/New_York" }

def springGateway (rows : List StopTime) : Gateway :=
  { nightGateway [⟨19792⟩] rows with now := ⟨1710086400, 0⟩ }

theorem stopTimes_springGateway :
    ((springStop.stopTimes none (some { next := some 3600 })).run.run
      (springGateway [leaving 41400, leaving 45000])).1 = .ok [(leaving 45000).stamp ⟨19792⟩] := by
  let g := springGateway [leaving 41400, leaving 45000]
  let plain : StopTimeFilter := {
    next := some 3600, date := some ⟨19792⟩, startTime := some 43200, endTime := some 46800 }
  let days := plain.splitDays 21600
  have ready : g.Ready (.many .stopTimesByStop) := Gateway.ready_startRequest g {} _
  obtain ⟨loaders, calls, loaded⟩ :=
    (Gateway.loadAll_leads ready.fed rfl (springStop.dayKeys none days)).loaded
  let after : Gateway := { g with request := { g.request with loaders }, calls }
  have zones : (Task.stopZone springStop.id springStop.stopTimezone).run g =
      (.ok (some Zone.newYork), g) := rfl
  have windows : (springStop.windowFor { next := some 3600 }).run.run g = (.ok none, g) := rfl
  have clock : Zone.newYork.localNow ⟨1710086400, 0⟩ = (⟨19792⟩, 43200) := by decide +kernel
  have normal : ({ next := some 3600 } : StopTimeFilter).normalize
      ⟨(Zone.newYork.localNow g.now).1, (Zone.newYork.localNow g.now).2⟩ none = plain := by
    show ({ next := some 3600 } : StopTimeFilter).normalize
      ⟨(Zone.newYork.localNow ⟨1710086400, 0⟩).1, (Zone.newYork.localNow ⟨1710086400, 0⟩).2⟩ none =
        plain
    rw [clock]
    rfl
  have schedules : (springStop.scheduled none days).run.run g =
      (.ok [(leaving 45000).stamp ⟨19792⟩], after) := by
    refine Prod.ext ?_ loaded
    have ordered : g.warehouse.stopTimes.mergeSort Warehouse.timeLe = g.warehouse.stopTimes :=
      List.mergeSort_of_pairwise (by decide)
    rw [scheduled_complete ready]
    simp only [Warehouse.rowsAt, ordered]
    rfl
  have shoots : ((Task.snapshot springStop.feedVersionId).run after).1 = .ok ⟨[]⟩ := rfl
  have shown := display_run zones windows normal schedules rfl (Prod.ext shoots rfl)
  refine (congrArg Prod.fst shown).trans ?_
  rw [Resolve.run_on, Task.mergeStopTimes_of_isEmpty rfl, StopTime.sorted_singleton]
  rfl

/-- Of two trips that leave half an hour after noon, by their times since midnight and by the
clock, the window of the next hour selects the one that leaves half an hour after it has ended. -/
theorem departure_after_next_hour :
    let z := Zone.newYork
    let rows := [leaving 41400, leaving 45000]
    ((springStop.stopTimes none (some { next := some 3600 })).run.run (springGateway rows)).1 =
        .ok [(leaving 45000).stamp ⟨19792⟩] ∧
      (∀ r ∈ rows, (springGateway rows).warehouse.ServesOn (1, 7) ⟨19792⟩ r) ∧
      (leaving 41400).LeavesIn ⟨19792⟩ z 1710086400 3600 ∧
      ¬ (leaving 45000).LeavesIn ⟨19792⟩ z 1710086400 3600 := by
  intro z rows
  have offset : z.dayOffset? ⟨19792⟩ = some (-18000) := by decide +kernel
  refine ⟨stopTimes_springGateway, ?_, ?_, ?_⟩
  · intro r member
    rcases List.mem_pair.mp member with rfl | rfl
    · exact ⟨List.mem_cons_self, rfl, rfl, _, rfl, by decide⟩
    · exact ⟨List.mem_cons_of_mem _ (List.mem_singleton_self _), rfl, rfl, _, rfl, by decide⟩
  · exact StopTime.leavesIn_iff.mpr ⟨_, _, offset, rfl, by decide, by decide⟩
  · rw [StopTime.leavesIn_iff]
    rintro ⟨_, _, known, ⟨⟩, _, before⟩
    obtain rfl := Option.some.inj (known.symm.trans offset)
    exact absurd before (by decide)

end Stop

end Transit
