import Transit.Proofs.Field.Display
set_option autoImplicit false

/-!
# The rows of a calendar date

A query for a window around a date reaches into three service days. `date_query_complete` says which
rows it is sure to select, and `date_query_sound` which rows it may return.
-/

namespace Transit

namespace Stop

open StopTimeFilter

variable {g : Gateway} {s : Stop} {limit : Option Int}

/-- A row that answers one of the days is among the scheduled rows of all of them. -/
theorem mem_scheduled {days : List StopTimeFilter}
    (bounded : ∀ day ∈ days,
      (g.warehouse.rowsAt (s.feedVersionId, s.id) (some day)).length ≤ groupLimit limit)
    {day : StopTimeFilter} (inDays : day ∈ days) {row : StopTime}
    (inRows : row ∈ g.warehouse.rowsAt (s.feedVersionId, s.id) (some day)) :
    row.onDay day ∈ days.flatMap fun day =>
      ((g.warehouse.rowsAt (s.feedVersionId, s.id) (some day)).take (groupLimit limit)).map
        (·.onDay day) := by
  refine List.mem_flatMap.mpr ⟨day, inDays, List.mem_map.mpr ⟨row, ?_, rfl⟩⟩
  rw [List.take_of_length_le (bounded day inDays)]
  exact inRows

/-- A query for the window from `start` to `stop` on a date selects, as long as no day has more rows
than the limit, every row of the date itself that leaves in the window and before 24:00:00, and
every row of the next day that leaves in the window. -/
theorem date_query_complete (g : Gateway) (ready : g.Ready (.many .stopTimesByStop)) (s : Stop)
    (limit : Option Int) (lookbehind : Int) (date : Date) (start stop : Int) :
    let w := g.warehouse
    let filter : StopTimeFilter :=
      { date := some date, startTime := some start, endTime := some stop }
    let days := filter.splitDays lookbehind
    (∀ day ∈ days, (w.rowsAt (s.feedVersionId, s.id) (some day)).length ≤ groupLimit limit) →
    ∃ rows last, (s.scheduled limit days).run.run g = (.ok rows, last) ∧
      ∀ r ∈ w.stopTimes, r.feedVersionId = s.feedVersionId → r.stopId = s.id →
        ∀ trip, w.trip? r.tripId = some trip → ∀ t, r.seconds? = some t →
          (w.runsOn trip.serviceId date = true → start ≤ t → t < stop → t < daySeconds →
            r.stamp date ∈ rows) ∧
          ∀ after, date.next? = some after → w.runsOn trip.serviceId after = true →
            start ≤ daySeconds + t → daySeconds + t < stop → r.stamp after ∈ rows := by
  intro w filter days bounded
  refine ⟨_, _, Prod.ext (scheduled_complete ready) rfl, ?_⟩
  intro r inRows version atStop trip known t time
  have nonneg : 0 ≤ t := by
    obtain ⟨clock, _, rfl⟩ := Option.map_eq_some_iff.mp time
    exact Int.natCast_nonneg _
  refine ⟨?_, ?_⟩
  · intro runs after before early
    have selected : r ∈ w.rowsAt (s.feedVersionId, s.id) (some (filter.sameDay date)) :=
      Warehouse.mem_rowsAt.mpr ⟨inRows, version, atStop,
        Warehouse.matches_of_seconds known runs time (Int.max_le.mpr ⟨after, nonneg⟩)
          (Int.lt_min.mpr ⟨before, early⟩)⟩
    have inDays : filter.sameDay date ∈ days :=
      (mem_splitDays rfl lookbehind).mpr (.inr (.inl rfl))
    exact mem_scheduled bounded inDays selected
  · intro after isNext runs afterStart beforeStop
    have opened : filter.nextDay date = filter.onServiceDay (some after) 0 (stop - daySeconds) := by
      rw [nextDay, isNext]
      rfl
    have selected : r ∈ w.rowsAt (s.feedVersionId, s.id) (some (filter.nextDay date)) := by
      rw [opened]
      exact Warehouse.mem_rowsAt.mpr ⟨inRows, version, atStop,
        Warehouse.matches_of_seconds known runs time nonneg (by omega)⟩
    have inDays : filter.nextDay date ∈ days := by
      refine (mem_splitDays rfl lookbehind).mpr (.inr (.inr ⟨?_, rfl⟩))
      show daySeconds < stop
      omega
    have stamped := mem_scheduled bounded inDays selected
    rwa [StopTime.onDay_of_date (by rw [opened]; rfl)] at stamped

/-- A stop, and a gateway that knows of one trip there, on these dates and with these rows. -/
def nightStop : Stop := { id := 7, feedVersionId := 1, stopId := "S", stopTimezone := "UTC" }

def nightGateway (dates : List Date) (rows : List StopTime) : Gateway where
  warehouse := {
    feedVersions := [{ id := 1 }]
    stops := [nightStop]
    trips := [{ id := 5, feedVersionId := 1, tripId := "T", serviceId := 1 }]
    calendarDates := dates.map fun date => { id := 1, serviceId := 1, date, exceptionType := 1 }
    stopTimes := rows }
  request := .start {} {}

def leaving (seconds : Nat) : StopTime where
  feedVersionId := 1
  tripId := 5
  stopId := 7
  stopSequence := 1
  departureTime := some ⟨seconds⟩

theorem ready_nightGateway (dates : List Date) (rows : List StopTime) (l : Lookup) :
    (nightGateway dates rows).Ready l :=
  Gateway.ready_startRequest (nightGateway dates rows) {} l

theorem scheduled_of_single (ready : g.Ready (.many .stopTimesByStop)) {row : StopTime}
    (only : g.warehouse.stopTimes = [row]) (days : List StopTimeFilter) :
    ((s.scheduled limit days).run.run g).1 = .ok (days.flatMap fun day =>
      (([row].filter fun r => (r.feedVersionId == s.feedVersionId && r.stopId == s.id) &&
        (some day).all (g.warehouse.stopTimeMatches · r)).take (groupLimit limit)).map
          (·.onDay day)) := by
  rw [scheduled_complete ready]
  simp only [Warehouse.rowsAt_of_single only]

/-- From 20:00:00 to 26:00:00, the evening of one day and the night of the next. -/
theorem date_query_complete_of_evening :
    let g := nightGateway [⟨17681⟩, ⟨17682⟩] [leaving 3600, leaving 73000]
    let filter : StopTimeFilter :=
      { date := some ⟨17681⟩, startTime := some 72000, endTime := some 93600 }
    g.Ready (.many .stopTimesByStop) ∧
      (∀ day ∈ filter.splitDays 21600, (g.warehouse.rowsAt (nightStop.feedVersionId, nightStop.id)
        (some day)).length ≤ groupLimit none) ∧
      ∃ rows last,
        (nightStop.scheduled none (filter.splitDays 21600)).run.run g = (.ok rows, last) ∧
        (leaving 73000).stamp ⟨17681⟩ ∈ rows ∧ (leaving 3600).stamp ⟨17682⟩ ∈ rows := by
  intro g filter
  have ready : g.Ready (.many .stopTimesByStop) := ready_nightGateway _ _ _
  have bounded : ∀ day ∈ filter.splitDays 21600, (g.warehouse.rowsAt
      (nightStop.feedVersionId, nightStop.id) (some day)).length ≤ groupLimit none := by
    intro day _
    exact Nat.le_trans (g.warehouse.length_rowsAt_le _ _) (by decide)
  obtain ⟨rows, last, ran, selected⟩ := date_query_complete g ready nightStop none 21600 ⟨17681⟩
    72000 93600 bounded
  refine ⟨ready, bounded, rows, last, ran, ?_, ?_⟩
  · exact (selected (leaving 73000) (by decide) rfl rfl _ rfl 73000 rfl).1 (by decide) (by decide)
      (by decide) (by decide)
  · exact (selected (leaving 3600) (by decide) rfl rfl _ rfl 3600 rfl).2 ⟨17682⟩ (by decide)
      (by decide) (by decide) (by decide)

/-- A trip that leaves at 24:30:00 is left out of the window from 20:00:00 to 30:00:00, although it
runs on the date. -/
theorem late_departure_not_selected :
    let g := nightGateway [⟨17681⟩] [leaving 88200]
    let filter : StopTimeFilter :=
      { date := some ⟨17681⟩, startTime := some 72000, endTime := some 108000 }
    leaving 88200 ∈ g.warehouse.stopTimes ∧
      (leaving 88200).feedVersionId = nightStop.feedVersionId ∧
      (leaving 88200).stopId = nightStop.id ∧
      ((g.warehouse.trip? (leaving 88200).tripId).any fun trip =>
        g.warehouse.runsOn trip.serviceId ⟨17681⟩) = true ∧
      (leaving 88200).seconds? = some 88200 ∧ (72000 : Int) ≤ 88200 ∧ (88200 : Int) < 108000 ∧
      ((nightStop.scheduled none (filter.splitDays 21600)).run.run g).1 = .ok [] := by
  intro g filter
  refine ⟨by decide, rfl, rfl, by decide, rfl, by decide, by decide, ?_⟩
  exact (scheduled_of_single (ready_nightGateway _ _ _) rfl _).trans rfl

/-- A row that answers one of the days of a date lies in the window of that day. -/
theorem window_of_day {w : Warehouse} {plain day : StopTimeFilter} {date : Date}
    {lookbehind : Int} (dated : plain.date = some date) (inDays : day ∈ plain.splitDays lookbehind)
    {row : StopTime} (holds : w.stopTimeMatches day row = true) :
    ∃ t, row.seconds? = some t ∧
      (((row.onDay day).serviceDate = some date ∧ plain.opens ≤ t ∧ t < plain.closes ∧
          t < daySeconds) ∨
        (daySeconds < plain.closes ∧ 0 ≤ t ∧ daySeconds + t < plain.closes ∧
          ∀ after, date.next? = some after → (row.onDay day).serviceDate = some after) ∨
        (plain.opens < lookbehind ∧ t < WideTime.maxQuery ∧
          (Number.Range.int32.holds (daySeconds + plain.opens) = true →
            plain.opens ≤ t - daySeconds) ∧
          ∀ before, date.previous? = some before →
            (row.onDay day).serviceDate = some before)) := by
  rcases (mem_splitDays dated lookbehind).mp inDays with ⟨early, rfl⟩ | rfl | ⟨late, rfl⟩
  · obtain ⟨t, time, after, before⟩ := Warehouse.seconds_of_matches holds
    refine ⟨t, time, .inr (.inr ⟨early, before, ?_, ?_⟩)⟩
    · intro fits
      rw [Number.Range.wrap_of_holds fits] at after
      omega
    · intro previous isPrevious
      rw [StopTime.onDay_of_date isPrevious]
      rfl
  · obtain ⟨t, time, after, before⟩ := Warehouse.seconds_of_matches holds
    exact ⟨t, time, .inl ⟨rfl, (Int.max_le.mp after).1, (Int.lt_min.mp before).1,
      (Int.lt_min.mp before).2⟩⟩
  · obtain ⟨t, time, after, before⟩ := Warehouse.seconds_of_matches holds
    refine ⟨t, time, .inr (.inl ⟨late, after, by omega, ?_⟩)⟩
    intro next isNext
    rw [StopTime.onDay_of_date isNext]
    rfl

/-- Whatever a stop returns for a date is a row outside the schedule or has a time: on the date
itself a time in the window before 24:00:00; on the next day a time before the window ends; on the
previous day, of which only windows that open before the lookbehind see anything, a time from the
opening of the window up to the end of the longest service day. -/
theorem date_query_sound (g : Gateway) (fed : g.FedBy (.many .stopTimesByStop) fun _ => True)
    (s : Stop) (limit : Option Int) (filter : Option StopTimeFilter) (plain : StopTimeFilter)
    (asked : s.plainFilter? g (filter.getD {}) = some plain) (date : Date)
    (dated : plain.date = some date) (rows : List StopTime) (last : Gateway)
    (ran : (s.stopTimes limit filter).run.run g = (.ok rows, last)) :
    let start := plain.startTime.getD 0
    let stop := plain.endTime.getD daySeconds
    ∀ r ∈ rows,
      (r.seconds? = none ∧ ∃ snapshot day, r ∈ StopTime.addedRows snapshot s day) ∨
      ∃ t, r.seconds? = some t ∧
        ((r.serviceDate = some date ∧ start ≤ t ∧ t < stop ∧ t < daySeconds) ∨
          (daySeconds < stop ∧ 0 ≤ t ∧ daySeconds + t < stop ∧
            ∀ after, date.next? = some after → r.serviceDate = some after) ∨
          (start < g.settings.lookbehind ∧ t < WideTime.maxQuery ∧
            (Number.Range.int32.holds (daySeconds + start) = true → start ≤ t - daySeconds) ∧
            ∀ before, date.previous? = some before → r.serviceDate = some before)) := by
  intro start stop r member
  obtain ⟨found, next, scheduled, _, isPlain, remembers, schedules, snapshot, zone, day, final,
    merges⟩ := display_ok ran
  obtain rfl := Option.some.inj (isPlain.symm.trans asked)
  rcases Task.mem_mergeStopTimes merges member with ⟨row, inScheduled, update, rfl⟩ | isAdded
  · right
    obtain ⟨day, inDays, w, row, _, inRows, rfl⟩ :=
      scheduled_sound (fed.remembers remembers) trivial schedules inScheduled
    obtain ⟨_, _, _, holds⟩ := Warehouse.mem_rowsAt.mp inRows
    obtain ⟨t, time, window⟩ := window_of_day dated inDays holds
    exact ⟨t, (StopTime.seconds_onDay row day).trans time, window⟩
  · exact .inl ⟨StopTime.seconds_of_mem_addedRows isAdded, snapshot, day, isAdded⟩

theorem night_of_previous_day :
    ((nightStop.stopTimes none (some
      { date := some ⟨17682⟩, startTime := some 0, endTime := some 600 })).run.run
        (nightGateway [⟨17681⟩] [leaving 88200])).1 = .ok [(leaving 88200).stamp ⟨17681⟩] := by
  let g := nightGateway [⟨17681⟩] [leaving 88200]
  let filter : StopTimeFilter := { date := some ⟨17682⟩, startTime := some 0, endTime := some 600 }
  let days := filter.splitDays 21600
  have ready : g.Ready (.many .stopTimesByStop) := ready_nightGateway _ _ _
  obtain ⟨loaders, calls, loaded⟩ :=
    (Gateway.loadAll_leads ready.fed rfl (nightStop.dayKeys none days)).loaded
  let after : Gateway := { g with request := { g.request with loaders }, calls }
  have zones : (Task.stopZone nightStop.id nightStop.stopTimezone).run g =
      (.ok (some ⟨"UTC", 0, []⟩), g) := rfl
  have windows : (nightStop.windowFor filter).run.run g = (.ok none, g) := rfl
  have schedules : (nightStop.scheduled none days).run.run g =
      (.ok [(leaving 88200).stamp ⟨17681⟩], after) :=
    Prod.ext ((scheduled_of_single ready rfl days).trans rfl) loaded
  have shoots : ((Task.snapshot nightStop.feedVersionId).run after).1 = .ok ⟨[]⟩ := rfl
  have shown := display_run zones windows rfl schedules rfl (Prod.ext shoots rfl)
  refine (congrArg Prod.fst shown).trans ?_
  rw [Resolve.run_on, Task.mergeStopTimes_of_isEmpty rfl, StopTime.sorted_singleton]
  rfl

/-- From midnight to 00:10:00 of a date the stop returns the trip of the previous day that leaves
at 00:30:00. -/
theorem departure_after_window :
    ((nightStop.stopTimes none (some
      { date := some ⟨17682⟩, startTime := some 0, endTime := some 600 })).run.run
        (nightGateway [⟨17681⟩] [leaving 88200])).1 = .ok [(leaving 88200).stamp ⟨17681⟩] ∧
      ((leaving 88200).stamp ⟨17681⟩).serviceDate = some ⟨17681⟩ ∧
      ((leaving 88200).stamp ⟨17681⟩).seconds? = some 88200 ∧
      ¬ (86400 * ((17681 : Int) - 17682) + 88200 < 600) :=
  ⟨night_of_previous_day, rfl, rfl, by decide⟩

/-- That trip comes from the previous day. -/
theorem date_query_sound_of_night :
    let g := nightGateway [⟨17681⟩] [leaving 88200]
    let filter : StopTimeFilter :=
      { date := some ⟨17682⟩, startTime := some 0, endTime := some 600 }
    let row := (leaving 88200).stamp ⟨17681⟩
    (g.FedBy (.many .stopTimesByStop) fun _ => True) ∧
      nightStop.plainFilter? g filter = some filter ∧ filter.date = some ⟨17682⟩ ∧
      ∃ last, (nightStop.stopTimes none (some filter)).run.run g = (.ok [row], last) ∧
        ∃ t, row.seconds? = some t ∧ 0 ≤ t - daySeconds ∧ t < WideTime.maxQuery := by
  intro g filter row
  have fed : g.FedBy (.many .stopTimesByStop) fun _ => True := Gateway.fedBy_startRequest g {} _ _
  have asked : nightStop.plainFilter? g filter = some filter := rfl
  obtain ⟨last, ran⟩ := Resolve.run_of_answer night_of_previous_day
  refine ⟨fed, asked, rfl, last, ran, ?_⟩
  rcases date_query_sound g fed nightStop none (some filter) filter asked ⟨17682⟩ rfl [row] last ran
    row (List.mem_singleton_self row) with ⟨untimed, _⟩ | ⟨t, time, same | next | previous⟩
  · cases untimed
  · obtain ⟨elsewhere, _⟩ := same
    cases elsewhere
  · obtain ⟨late, _⟩ := next
    exact absurd late (by decide)
  · obtain ⟨_, before, after, _⟩ := previous
    exact ⟨t, time, after (by decide), before⟩

end Stop

end Transit
