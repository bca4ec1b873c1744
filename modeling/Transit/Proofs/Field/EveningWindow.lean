import Mathlib.Data.List.Nodup
import Transit.Proofs.Field.DateWindow
import Transit.Proofs.Field.Shown
set_option autoImplicit false

/-!
# The window of an evening

A window that begins late enough does not look back. Up to midnight it is for the calls of the date
itself, and from then on for those of the next day, counted from that day's midnight. These are the
scheduled rows that a stop displays for it, each once and with its own service date, as long as
there is a next day (`evening_union_iff`). The calendar ends with a date that has none, and the
query for what would be the next day then asks for no date at all (`undated_after_last_day`).
-/

namespace Transit

namespace Warehouse

open StopTimeFilter

/-- The rows at a stop of a feed version that leave, or else arrive, in a window. -/
def callsIn (w : Warehouse) (key : Int × Int) (start stop : Int) : List StopTime :=
  w.stopTimes.filter fun r => (r.feedVersionId == key.1 && r.stopId == key.2) &&
    r.seconds?.any fun t => start ≤ t && t < stop

def tripRunsOn (w : Warehouse) (r : StopTime) (d : Date) : Bool :=
  (w.trip? r.tripId).any fun trip => w.runsOn trip.serviceId d

/-- Those of them whose trips run on a date. -/
def callsOn (w : Warehouse) (key : Int × Int) (start stop : Int) (d : Date) : List StopTime :=
  (w.callsIn key start stop).filter (w.tripRunsOn · d)

/-- What the window of an evening is for: the calls of the date up to midnight, and those of the
next day from then on, each with its service date. -/
def eveningCalls (w : Warehouse) (key : Int × Int) (date : Date) (start stop : Int) :
    List (Date × StopTime) :=
  (w.callsOn key start (min stop daySeconds) date).map (date, ·) ++
    date.next?.elim [] fun after => (w.callsOn key 0 (stop - daySeconds) after).map (after, ·)

/-- The calls in the part of the window after midnight where there is no next day, whether their
trips run or not. -/
def undatedCalls (w : Warehouse) (key : Int × Int) (date : Date) (stop : Int) : List StopTime :=
  date.next?.elim (w.callsIn key 0 (stop - daySeconds)) fun _ => []

variable {w : Warehouse} {key : Int × Int} {date : Date} {start stop : Int}

theorem callsIn_of_le (empty : stop ≤ start) : w.callsIn key start stop = [] := by
  refine List.filter_eq_nil_iff.mpr fun r _ admitted => ?_
  obtain ⟨_, inWindow⟩ := Bool.and_eq_true_iff.mp admitted
  obtain ⟨t, _, bounds⟩ := (Option.any_eq_true _ _).mp inWindow
  simp only [Bool.and_eq_true, decide_eq_true_eq] at bounds
  omega

/-- No call is counted twice, since those of the two days have different dates. -/
theorem nodup_eveningCalls (nodup : w.stopTimes.Nodup) :
    (w.eveningCalls key date start stop).Nodup := by
  have each (start stop : Int) (d : Date) :
      ((w.callsOn key start stop d).map (d, ·)).Nodup :=
    ((nodup.filter _).filter _).map (Prod.mk_right_injective d)
  unfold eveningCalls
  cases next : date.next? with
  | none => exact List.nodup_append.mpr ⟨each _ _ _, List.nodup_nil, by simp⟩
  | some after =>
    refine List.nodup_append.mpr ⟨each _ _ _, each _ _ _, ?_⟩
    rintro _ inEvening _ inNight rfl
    obtain ⟨_, _, rfl⟩ := List.mem_map.mp inEvening
    obtain ⟨_, _, same⟩ := List.mem_map.mp inNight
    obtain rfl := congrArg Prod.fst same
    exact Date.addDays?_ne (by decide) next

/-- Without conditions on the route or the place in the trip, a query for a service day is for the
calls in its window: of the trips that run on the day, or of all trips if it has no date. -/
theorem rowsAt_perm_calls {f : StopTimeFilter} (anyRoute : f.routeOnestopIds = [])
    (withFirst : f.excludeFirst = none) (withLast : f.excludeLast = none) (d : Option Date) :
    (w.rowsAt key (some (f.onServiceDay d start stop))).Perm
      ((w.callsIn key start stop).filter fun r => d.all (w.tripRunsOn r)) := by
  have matched (r : StopTime) : w.stopTimeMatches (f.onServiceDay d start stop) r =
      ((r.seconds?.any fun t => start ≤ t && t < stop) && d.all (w.tripRunsOn r)) := by
    have inTime : inWindow (f.onServiceDay d start stop) r =
        r.seconds?.any fun t => start ≤ t && t < stop := by
      rfl
    rw [stopTimeMatches, inTime]
    cases d <;>
      simp [asksForTrip, onServiceDay, anyRoute, withFirst, withLast, tripRunsOn]
  have same : (fun r => (r.feedVersionId == key.1 && r.stopId == key.2) &&
      (some (f.onServiceDay d start stop)).all (w.stopTimeMatches · r)) =
      fun r => d.all (w.tripRunsOn r) && ((r.feedVersionId == key.1 && r.stopId == key.2) &&
        r.seconds?.any fun t => start ≤ t && t < stop) := by
    funext r
    rw [Option.all_some, matched, ← Bool.and_assoc, Bool.and_comm]
  rw [rowsAt, callsIn, List.filter_filter, same]
  exact (List.mergeSort_perm _ _).filter _

end Warehouse

namespace Stop

open StopTimeFilter

variable {s : Stop} {w : Warehouse} {limit : Option Int} {days : List StopTimeFilter}

theorem rowsOfDays_of_bounded (bounded : ∀ day ∈ days,
    (w.rowsAt (s.feedVersionId, s.id) (some day)).length ≤ groupLimit limit) :
    s.rowsOfDays w limit days = days.flatMap fun day =>
      (w.rowsAt (s.feedVersionId, s.id) (some day)).map (·.onDay day) := by
  refine List.flatMap_congr fun day inDays => ?_
  rw [List.take_of_length_le (bounded day inDays)]

/-- A window that begins late enough comes to the date itself, and the next day if it runs past
midnight. -/
theorem splitDays_of_late {f : StopTimeFilter} {date : Date} (dated : f.date = some date)
    {lookbehind : Int} (opens : lookbehind ≤ f.opens) :
    f.splitDays lookbehind =
      f.sameDay date :: if daySeconds < f.closes then [f.nextDay date] else [] := by
  rw [splitDays_of_dated dated, if_neg (Int.not_lt.mpr opens)]
  rfl

/-- The rows that a filter for a date finds: the calls of the evening with their service dates, and
where there is no next day whatever falls into the window after midnight. -/
theorem selected_of_late (w : Warehouse) (s : Stop) (limit : Option Int) (date : Date)
    {start stop lookbehind : Int} (nonneg : 0 ≤ lookbehind) (opens : lookbehind ≤ start) :
    let key := (s.feedVersionId, s.id)
    let filter : StopTimeFilter :=
      { date := some date, startTime := some start, endTime := some stop }
    (∀ day ∈ filter.splitDays lookbehind, (w.rowsAt key (some day)).length ≤ groupLimit limit) →
    (s.rowsOfDays w limit (filter.splitDays lookbehind)).Perm
      ((w.eveningCalls key date start stop).map (fun call => call.2.stamp call.1) ++
        w.undatedCalls key date stop) := by
  intro key filter bounded
  have evening : ((w.rowsAt key (some (filter.sameDay date))).map
      (·.onDay (filter.sameDay date))).Perm
        (((w.callsOn key start (min stop daySeconds) date).map (date, ·)).map fun call =>
          call.2.stamp call.1) := by
    have begins : max start 0 = start := max_eq_left (Int.le_trans nonneg opens)
    have isDay : filter.sameDay date =
        filter.onServiceDay (some date) start (min stop daySeconds) := by
      rw [sameDay, ← begins]
      rfl
    rw [isDay, List.map_map]
    exact (Warehouse.rowsAt_perm_calls rfl rfl rfl (some date)).map _
  have night : ((w.rowsAt key (some (filter.nextDay date))).map
      (·.onDay (filter.nextDay date))).Perm
        ((date.next?.elim [] fun after => (w.callsOn key 0 (stop - daySeconds) after).map
          (after, ·)).map (fun call => call.2.stamp call.1) ++ w.undatedCalls key date stop) := by
    have isDay : filter.nextDay date = filter.onServiceDay date.next? 0 (stop - daySeconds) := rfl
    have rows : (w.rowsAt key (some (filter.nextDay date))).Perm
        ((w.callsIn key 0 (stop - daySeconds)).filter fun r => date.next?.all (w.tripRunsOn r)) := by
      rw [isDay]
      exact Warehouse.rowsAt_perm_calls rfl rfl rfl date.next?
    rw [isDay] at rows ⊢
    unfold Warehouse.undatedCalls
    cases next : date.next? with
    | some after =>
      rw [next] at rows
      rw [Option.elim_some, Option.elim_some, List.append_nil, List.map_map]
      exact rows.map _
    | none =>
      rw [next] at rows
      simpa [StopTime.onDay, onServiceDay] using rows
  rw [rowsOfDays_of_bounded bounded, splitDays_of_late rfl opens, List.flatMap_cons,
    Warehouse.eveningCalls, List.map_append, List.append_assoc]
  refine evening.append ?_
  by_cases late : daySeconds < filter.closes
  · rw [if_pos late, List.flatMap_singleton]
    exact night
  · -- the window ends by midnight
    have ends : stop ≤ daySeconds := Int.not_lt.mp late
    have none : w.callsIn key 0 (stop - daySeconds) = [] := Warehouse.callsIn_of_le (by omega)
    rw [if_neg late, Warehouse.undatedCalls]
    cases date.next? <;> simp [Warehouse.callsOn, none]

theorem plainIn_dated (s : Stop) (g : Gateway) (zone : Zone) (date : Date) (start stop : Int) :
    let filter : StopTimeFilter :=
      { date := some date, startTime := some start, endTime := some stop }
    s.plainIn g zone filter = filter :=
  rfl

/-- For a window that begins late enough, and as long as no service day has more rows than the
limit, a stop displays each call of the evening once, on its own service date, if and only if the
date has a next day or no row at the stop, of whatever date, falls into the window that is left
after midnight. Where there is no next day these rows are displayed as well, without a date. -/
theorem evening_union_iff (g : Gateway) (active : g.Active) (s : Stop) (limit : Option Int)
    (date : Date) (start stop : Int) (nonneg : 0 ≤ g.settings.lookbehind)
    (opens : g.settings.lookbehind ≤ start) (zone : Zone)
    (zoned : IdCache.stopZone? g.warehouse g.ids s.id s.stopTimezone = some zone)
    (snapshot : Realtime.Snapshot) (known : g.snapshotOf s.feedVersionId = .ok snapshot) :
    let w := g.warehouse
    let key := (s.feedVersionId, s.id)
    let filter : StopTimeFilter :=
      { date := some date, startTime := some start, endTime := some stop }
    let calls := w.eveningCalls key date start stop
    let displayed := calls.map fun call => g.overlay snapshot s (call.2.stamp call.1)
    let undated := w.callsIn key 0 (stop - daySeconds)
    let added := (snapshot.addedCalls s.stopId).map fun call =>
      StopTime.ofAdded s (some date) call.1 call.2
    (∀ day ∈ filter.splitDays g.settings.lookbehind,
      (w.rowsAt key (some day)).length ≤ groupLimit limit) →
    ∃ rows, ((s.stopTimes limit (some filter)).run.run g).1 = .ok rows ∧
      (w.stopTimes.Nodup → calls.Nodup) ∧
      (rows.Perm (displayed ++ added) ↔ date.next?.isSome = true ∨ undated = []) ∧
      (date.next? = none →
        rows.Perm (displayed ++ undated.map (g.overlay snapshot s) ++ added)) := by
  intro w key filter calls displayed undated added bounded
  have shows := (display_ends s g limit filter).of_active active
  rw [shown, zoned, known] at shows
  have selects := selected_of_late w s limit date nonneg opens bounded
  have all : (s.shownOver g zone snapshot limit filter).Perm
      (displayed ++ (w.undatedCalls key date stop).map (g.overlay snapshot s) ++ added) := by
    have addedRows : StopTime.addedRows snapshot s (some date) = added :=
      StopTime.addedRows_eq snapshot s (some date)
    have mapped := selects.map (g.overlay snapshot s)
    rw [List.map_append, List.map_map] at mapped
    refine (StopTime.sorted_perm zone _).trans ?_
    rw [selected, plainIn_dated, ← addedRows]
    exact mapped.append_right _
  refine ⟨_, shows, Warehouse.nodup_eveningCalls, ?_⟩
  unfold Warehouse.undatedCalls at all
  cases next : date.next? with
  | some after =>
    rw [next, Option.elim_some, List.map_nil, List.append_nil] at all
    exact ⟨⟨fun _ => .inl rfl, fun _ => all⟩, nofun⟩
  | none =>
    rw [next, Option.elim_none] at all
    change (s.shownOver g zone snapshot limit filter).Perm
      (displayed ++ undated.map (g.overlay snapshot s) ++ added) at all
    refine ⟨⟨fun same => .inr ?_, ?_⟩, fun _ => all⟩
    · -- there is no room for further rows
      have without : (displayed ++ undated.map (g.overlay snapshot s)).Perm (displayed ++ []) := by
        rw [List.append_nil]
        exact (List.perm_append_right_iff added).mp (all.symm.trans same)
      exact List.map_eq_nil_iff.mp ((List.perm_append_left_iff displayed).mp without).eq_nil
    · rintro (some | empty)
      · cases some
      · rwa [empty, List.map_nil, List.append_nil] at all

/-- From 20:00:00 to 26:00:00, a call of the evening and one of the night after it. -/
theorem evening_union_iff_of_night :
    let g := nightGateway [⟨17681⟩, ⟨17682⟩] [leaving 3600, leaving 73000]
    let filter : StopTimeFilter :=
      { date := some ⟨17681⟩, startTime := some 72000, endTime := some 93600 }
    g.Active ∧ 0 ≤ g.settings.lookbehind ∧ g.settings.lookbehind ≤ 72000 ∧
      IdCache.stopZone? g.warehouse g.ids nightStop.id nightStop.stopTimezone =
        some ⟨"UTC", 0, []⟩ ∧
      g.snapshotOf nightStop.feedVersionId = .ok ⟨[]⟩ ∧
      (∀ day ∈ filter.splitDays g.settings.lookbehind, (g.warehouse.rowsAt
        (nightStop.feedVersionId, nightStop.id) (some day)).length ≤ groupLimit none) ∧
      ∃ rows, ((nightStop.stopTimes none (some filter)).run.run g).1 = .ok rows ∧
        rows.Perm [(leaving 73000).stamp ⟨17681⟩, (leaving 3600).stamp ⟨17682⟩] := by
  intro g filter
  have active : g.Active := Gateway.active_startRequest g {}
  have bounded : ∀ day ∈ filter.splitDays g.settings.lookbehind, (g.warehouse.rowsAt
      (nightStop.feedVersionId, nightStop.id) (some day)).length ≤ groupLimit none := by
    intro day _
    exact Nat.le_trans (g.warehouse.length_rowsAt_le _ _) (by decide)
  obtain ⟨rows, shows, _, union, _⟩ := evening_union_iff g active nightStop none ⟨17681⟩ 72000 93600
    (by decide) (by decide) ⟨"UTC", 0, []⟩ rfl ⟨[]⟩ rfl bounded
  exact ⟨active, by decide, by decide, rfl, rfl, bounded, rows, shows, union.mpr (.inl (by decide))⟩

/-- On the last date of the calendar, a window that runs past midnight shows a trip that does not
run on any date, and shows it without a date. -/
theorem undated_after_last_day :
    let g := nightGateway [] [leaving 3600]
    let filter : StopTimeFilter :=
      { date := some ⟨Date.span.hi⟩, startTime := some 72000, endTime := some 108000 }
    ((nightStop.stopTimes none (some filter)).run.run g).1 = .ok [leaving 3600] ∧
      (leaving 3600).serviceDate = none ∧
      g.warehouse.eveningCalls (nightStop.feedVersionId, nightStop.id) ⟨Date.span.hi⟩ 72000 108000 =
        [] := by
  intro g filter
  have shows : nightStop.shown g none filter =
      .ok (nightStop.shownOver g ⟨"UTC", 0, []⟩ ⟨[]⟩ none filter) := rfl
  have days : filter.splitDays g.settings.lookbehind =
      [filter.sameDay ⟨Date.span.hi⟩, filter.nextDay ⟨Date.span.hi⟩] := rfl
  have rows : nightStop.selected g ⟨"UTC", 0, []⟩ none filter = [leaving 3600] := by
    rw [selected, plainIn_dated, rowsOfDays, days]
    simp only [Warehouse.rowsAt_of_single (w := g.warehouse) rfl]
    decide
  have active : g.Active := Gateway.active_startRequest g {}
  refine ⟨?_, rfl, by decide⟩
  refine ((display_ends nightStop g none filter).of_active active).trans (shows.trans ?_)
  rw [shownOver, Gateway.merged, rows, StopTime.addedRows_of_isEmpty rfl, List.append_nil,
    List.map_singleton, StopTime.sorted_singleton]
  rfl

end Stop

end Transit
