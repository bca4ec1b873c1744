import Transit.Proofs.Field.DateWindow
import Transit.Proofs.Field.Shown
import Transit.Proofs.Realtime.Ordering
set_option autoImplicit false

/-!
# The limit of a stop's rows

The limit of a query cuts off the rows of each service day and not the rows as a whole. Rows with
times come in the same order from the warehouse as they are displayed in, so what a limit leaves
begins with the rows that it should leave (`limit_keeps_first`).
-/

namespace Transit

namespace StopTime

theorem sortKey_of_seconds {r : StopTime} {t : Int} (z : Zone) (time : r.seconds? = some t) :
    r.sortKey z = (r.serviceDate.bind z.serviceMidnight?).elim 0 (·.instant.seconds) + t := by
  obtain ⟨clock, known, rfl⟩ := Option.map_eq_some_iff.mp time
  rw [sortKey_eq, known]
  rfl

end StopTime

namespace Stop

variable {g : Gateway} {s : Stop} {zone : Zone} {day : StopTimeFilter}

/-- A row of a day, as it is displayed. -/
def displayed (g : Gateway) (snapshot : Realtime.Snapshot) (s : Stop) (day : StopTimeFilter)
    (r : StopTime) : StopTime :=
  g.overlay snapshot s (r.onDay day)

/-- A day's rows have times and the date of the day. -/
def Timely (day : StopTimeFilter) (rows : List StopTime) : Prop :=
  ∀ r ∈ rows, r.seconds?.isSome = true ∧ (r.onDay day).serviceDate = day.serviceDate

theorem sortKey_displayed (z : Zone) (snapshot : Realtime.Snapshot) {r : StopTime} {t : Int}
    (time : r.seconds? = some t) (dated : (r.onDay day).serviceDate = day.serviceDate) :
    (displayed g snapshot s day r).sortKey z =
      (day.serviceDate.bind z.serviceMidnight?).elim 0 (·.instant.seconds) + t := by
  obtain ⟨update, same⟩ := g.overlay_eq snapshot s (r.onDay day)
  have timed : (displayed g snapshot s day r).seconds? = some t := by
    rw [displayed, same]
    exact (StopTime.seconds_onDay r day).trans time
  rw [StopTime.sortKey_of_seconds z timed, displayed, same, ← dated]

/-- The rows of a day are displayed in the order in which the warehouse gives them. -/
theorem displayed_ordered (z : Zone) (g : Gateway) (snapshot : Realtime.Snapshot) (s : Stop)
    (timely : Timely day (g.warehouse.rowsAt (s.feedVersionId, s.id) (some day))) :
    ((g.warehouse.rowsAt (s.feedVersionId, s.id) (some day)).map
      (displayed g snapshot s day)).Pairwise fun a b => a.sortKey z ≤ b.sortKey z := by
  rw [List.pairwise_map]
  refine (g.warehouse.rowsAt_ordered _ _).imp_of_mem fun {a b} inA inB before => ?_
  obtain ⟨timeA, datedA⟩ := timely a inA
  obtain ⟨timeB, datedB⟩ := timely b inB
  obtain ⟨t, knownA⟩ := Option.isSome_iff_exists.mp timeA
  obtain ⟨u, knownB⟩ := Option.isSome_iff_exists.mp timeB
  rw [sortKey_displayed z snapshot knownA datedA, sortKey_displayed z snapshot knownB datedB]
  exact Int.add_le_add_left (Warehouse.le_of_timeLe before knownA knownB) _

/-- Each service day adds its rows up to the limit; the rows outside the schedule are all there. -/
theorem shownOver_eq (s : Stop) (g : Gateway) (zone : Zone) (snapshot : Realtime.Snapshot)
    (limit : Option Int) (filter : StopTimeFilter) :
    s.shownOver g zone snapshot limit filter = StopTime.sorted zone
      (((s.plainIn g zone filter).splitDays g.settings.lookbehind).flatMap (fun day =>
          ((g.warehouse.rowsAt (s.feedVersionId, s.id) (some day)).map
            (displayed g snapshot s day)).take (groupLimit limit)) ++
        StopTime.addedRows snapshot s
          ((s.plainIn g zone filter).addedDate (zone.localNow g.now).1)) := by
  rw [shownOver, Gateway.merged, selected, rowsOfDays, List.map_flatMap]
  congr 2
  refine List.flatMap_congr fun day _ => ?_
  rw [List.map_map, ← List.map_take]
  rfl

theorem groupLimit_of_le {n : Nat} (positive : 1 ≤ n) (bounded : n ≤ 1000) :
    groupLimit (some n) = n := by
  simp only [groupLimit, maxGroupLimit]
  split <;> omega

/-- The nights of two days: a trip leaves at 24:30:00 of each day, and one at 01:00:00. -/
def nights : Gateway := nightGateway [⟨17681⟩, ⟨17682⟩] [leaving 3600, leaving 88200]

/-- From midnight to 02:00:00 of the second day. -/
def earlyHours : StopTimeFilter :=
  { date := some ⟨17682⟩, startTime := some 0, endTime := some 7200 }

theorem active_nights : nights.Active :=
  Gateway.active_startRequest nights {}

theorem rowsAt_nights (key : Int × Int) (filter : Option StopTimeFilter) :
    nights.warehouse.rowsAt key filter = [leaving 3600, leaving 88200].filter fun r =>
      (r.feedVersionId == key.1 && r.stopId == key.2) &&
        filter.all (nights.warehouse.stopTimeMatches · r) := by
  have ordered : [leaving 3600, leaving 88200].Pairwise
      fun a b => Warehouse.timeLe a b = true := by
    decide
  rw [Warehouse.rowsAt, nights, nightGateway, List.mergeSort_of_pairwise ordered]

theorem display_nights (limit : Option Int) (room : 1 ≤ groupLimit limit) :
    ((nightStop.display limit earlyHours).run.run nights).1 =
      .ok [(leaving 88200).stamp ⟨17681⟩, (leaving 3600).stamp ⟨17682⟩] := by
  have previous : nights.warehouse.rowsAt (1, 7) (some (earlyHours.previousDay ⟨17682⟩)) =
      [leaving 88200] := (rowsAt_nights _ _).trans (by decide)
  have same : nights.warehouse.rowsAt (1, 7) (some (earlyHours.sameDay ⟨17682⟩)) =
      [leaving 3600] := (rowsAt_nights _ _).trans (by decide)
  have shows : nightStop.shown nights limit earlyHours =
      .ok (nightStop.shownOver nights ⟨"UTC", 0, []⟩ ⟨[]⟩ limit earlyHours) := rfl
  have days : (nightStop.plainIn nights ⟨"UTC", 0, []⟩ earlyHours).splitDays 21600 =
      [earlyHours.previousDay ⟨17682⟩, earlyHours.sameDay ⟨17682⟩] := rfl
  have lookbehind : nights.settings.lookbehind = 21600 := rfl
  have key : (nightStop.feedVersionId, nightStop.id) = (1, 7) := rfl
  have ordered : [(leaving 88200).stamp ⟨17681⟩, (leaving 3600).stamp ⟨17682⟩].Pairwise
      fun a b => StopTime.noLater ⟨"UTC", 0, []⟩ a b = true := by
    decide
  rw [(display_ends nightStop nights limit earlyHours).of_active active_nights, shows,
    shownOver_eq, lookbehind, days, key, List.flatMap_cons, List.flatMap_cons, previous, same,
    List.map_singleton, List.map_singleton, List.take_of_length_le room,
    List.take_of_length_le room, StopTime.addedRows_of_isEmpty rfl, StopTime.sorted_eq]
  exact congrArg Except.ok (List.mergeSort_of_pairwise ordered)

theorem timely_nights : ∀ day ∈ [earlyHours.previousDay ⟨17682⟩, earlyHours.sameDay ⟨17682⟩],
    (nights.warehouse.rowsAt (1, 7) (some day)).length < 1000 ∧
      Timely day (nights.warehouse.rowsAt (1, 7) (some day)) := by
  intro day inDays
  have dated : ∃ d, day.serviceDate = some d := by
    rcases List.mem_pair.mp inDays with rfl | rfl
    · exact ⟨⟨17681⟩, rfl⟩
    · exact ⟨⟨17682⟩, rfl⟩
  obtain ⟨d, known⟩ := dated
  refine ⟨Nat.lt_of_le_of_lt (Warehouse.length_rowsAt_le _ _ _) (by decide), ?_⟩
  intro r member
  rw [StopTime.onDay_of_date known, known]
  refine ⟨?_, rfl⟩
  rcases List.mem_pair.mp (Warehouse.mem_rowsAt.mp member).1 with rfl | rfl
  · rfl
  · rfl

/-- With a limit, the first rows up to the limit are those that are displayed without one, as long
as no day has as many rows as a query returns at most and all of them have times. But a limit leaves
each of the service days its rows up to the limit, and all rows outside the schedule. So it means
what it says where a query touches one service day and nothing is outside the schedule. -/
theorem limit_keeps_first (g : Gateway) (active : g.Active) (s : Stop) (filter : StopTimeFilter)
    (zone : Zone)
    (zoned : IdCache.stopZone? g.warehouse g.ids s.id s.stopTimezone = some zone)
    (snapshot : Realtime.Snapshot) (known : g.snapshotOf s.feedVersionId = .ok snapshot)
    (n : Nat) (positive : 1 ≤ n) (bounded : n ≤ 1000) :
    let days := (s.plainIn g zone filter).splitDays g.settings.lookbehind
    let rows := fun day => g.warehouse.rowsAt (s.feedVersionId, s.id) (some day)
    (∀ day ∈ days, (rows day).length < 1000 ∧ Timely day (rows day)) →
    ∃ all limited, ((s.display none filter).run.run g).1 = .ok all ∧
      ((s.display (some n) filter).run.run g).1 = .ok limited ∧
      limited.take n = all.take n ∧
      limited.length =
        (days.map fun day => min n (rows day).length).sum +
          (snapshot.addedCalls s.stopId).length ∧
      (days.length = 1 → snapshot.addedCalls s.stopId = [] → limited = all.take n) := by
  intro days rows ordinary
  have shows (limit : Option Int) :
      ((s.display limit filter).run.run g).1 = .ok (s.shownOver g zone snapshot limit filter) := by
    rw [(display_ends s g limit filter).of_active active, shown, zoned, known]
    rfl
  have cut := shownOver_eq s g zone snapshot (some n) filter
  rw [groupLimit_of_le positive bounded] at cut
  have whole : s.shownOver g zone snapshot none filter = StopTime.sorted zone
      (days.flatMap (fun day => (rows day).map (displayed g snapshot s day)) ++
        StopTime.addedRows snapshot s
          ((s.plainIn g zone filter).addedDate (zone.localNow g.now).1)) := by
    rw [shownOver_eq]
    congr 2
    refine List.flatMap_congr fun day inDays => List.take_of_length_le ?_
    rw [List.length_map]
    exact Nat.le_of_lt (ordinary day inDays).1
  have first : (s.shownOver g zone snapshot (some n) filter).take n =
      (s.shownOver g zone snapshot none filter).take n := by
    rw [cut, whole]
    exact StopTime.take_sorted_flatMap zone n days _
      (fun day inDays => displayed_ordered zone g snapshot s (ordinary day inDays).2) [] _
  have size : (s.shownOver g zone snapshot (some n) filter).length =
      (days.map fun day => min n (rows day).length).sum +
        (snapshot.addedCalls s.stopId).length := by
    rw [cut, (StopTime.sorted_perm zone _).length_eq, List.length_append, List.length_flatMap,
      StopTime.addedRows_eq, List.length_map]
    simp only [List.length_take, List.length_map]
    rfl
  refine ⟨_, _, shows none, shows (some n), first, size, ?_⟩
  intro single nothing
  rw [← first, List.take_of_length_le]
  obtain ⟨day, only⟩ := List.length_eq_one_iff.mp single
  rw [size, nothing, only]
  simp

/-- The first of the rows for limit 1 is the first of all. -/
theorem limit_keeps_first_of_nights :
    nights.Active ∧ IdCache.stopZone? nights.warehouse nights.ids nightStop.id
        nightStop.stopTimezone = some ⟨"UTC", 0, []⟩ ∧
      nights.snapshotOf nightStop.feedVersionId = .ok ⟨[]⟩ ∧
      ∃ all limited, ((nightStop.display none earlyHours).run.run nights).1 = .ok all ∧
        ((nightStop.display (some 1) earlyHours).run.run nights).1 = .ok limited ∧
        limited.take 1 = all.take 1 ∧ limited.length = 2 := by
  obtain ⟨all, limited, shows, showsLimited, first, _⟩ := limit_keeps_first nights
    active_nights nightStop earlyHours ⟨"UTC", 0, []⟩ rfl ⟨[]⟩ rfl 1 (by decide) (by decide)
    timely_nights
  refine ⟨active_nights, rfl, rfl, all, limited, shows, showsLimited, first, ?_⟩
  obtain rfl := Except.ok.inj (showsLimited.symm.trans (display_nights (some 1) (by decide)))
  rfl

/-- With limit 1 the stop shows two rows, one of each night. -/
theorem both_nights_for_one :
    ∃ rows, ((nightStop.stopTimes none (some earlyHours)).run.run nights).1 = .ok rows ∧
      ((nightStop.stopTimes (some 1) (some earlyHours)).run.run nights).1 = .ok rows ∧
      rows.length = 2 ∧ rows ≠ rows.take 1 :=
  ⟨_, display_nights none (by decide), display_nights (some 1) (by decide), rfl, by decide⟩

end Stop

end Transit
