import Mathlib.Data.List.Forall2
import Transit.Proofs.Gateway.Running
set_option autoImplicit false

/-!
# Merging rows with realtime

The rows that come out of a merge are the scheduled rows, each with some update and otherwise as it
was, and one row for each call outside the schedule, which says no more than the call does
(`StandsFor`, `merge_keeps_rows`). The sort in between only moves rows: it is a stable sort by the
time at which a row leaves.
-/

namespace Transit

open Realtime

/-- The calls at a stop of all trips outside the schedule, each with its trip. -/
def Realtime.Snapshot.addedCalls (s : Snapshot) (stopId : String) :
    List (TripUpdate × StopTimeUpdate) :=
  ((s.tripSources.flatMap fun source => source.trips.map (·.2)).filter (·.isAdded)).flatMap fun t =>
    (t.stopTimeUpdates.filter (·.stopId == some stopId)).map (t, ·)

/-- Everything in the second of two related lists is related to something in the first. -/
theorem exists_of_forall₂ {α β : Type} {R : α → β → Prop} {xs : List α} {ys : List β}
    (related : List.Forall₂ R xs ys) {y : β} (member : y ∈ ys) : ∃ x ∈ xs, R x y := by
  induction related with
  | nil => simp at member
  | cons first _ ih =>
    rcases List.mem_cons.mp member with rfl | later
    · exact ⟨_, List.mem_cons_self, first⟩
    · obtain ⟨x, inside, holds⟩ := ih later
      exact ⟨x, List.mem_cons_of_mem _ inside, holds⟩

namespace StopTime

/-! ## The order of rows -/

/-- The first row does not leave after the second. -/
def noLater (z : Zone) (a b : StopTime) : Bool := a.sortKey z ≤ b.sortKey z

theorem noLater_iff (z : Zone) (a b : StopTime) :
    noLater z a b = true ↔ a.sortKey z ≤ b.sortKey z :=
  decide_eq_true_iff

theorem noLater_trans (z : Zone) (a b c : StopTime) (first : noLater z a b = true)
    (second : noLater z b c = true) : noLater z a c = true := by
  rw [noLater_iff] at first second ⊢
  omega

theorem noLater_total (z : Zone) (a b : StopTime) : (noLater z a b || noLater z b a) = true := by
  rw [Bool.or_eq_true, noLater_iff, noLater_iff]
  omega

theorem sorted_eq (z : Zone) (rows : List StopTime) :
    sorted z rows = rows.mergeSort (noLater z) := by
  have keyed := List.map_mergeSort (r := noLater z) (f := fun r => (r.sortKey z, r)) (l := rows)
    (s := fun a b => decide (a.1 ≤ b.1)) (fun _ _ _ _ => rfl)
  rw [sorted, ← keyed, List.map_map]
  exact List.map_id _

theorem sorted_perm (z : Zone) (rows : List StopTime) : (sorted z rows).Perm rows := by
  rw [sorted_eq]
  exact List.mergeSort_perm _ _

theorem sorted_ordered (z : Zone) (rows : List StopTime) :
    (sorted z rows).Pairwise fun a b => a.sortKey z ≤ b.sortKey z := by
  rw [sorted_eq]
  have ordered := List.pairwise_mergeSort (noLater_trans z) (noLater_total z) rows
  exact ordered.imp fun before => (noLater_iff z _ _).mp before

theorem mem_sorted {z : Zone} {rows : List StopTime} {r : StopTime} :
    r ∈ sorted z rows ↔ r ∈ rows := by
  simp [sorted]

theorem sorted_singleton (z : Zone) (r : StopTime) : sorted z [r] = [r] := by
  simp [sorted]

/-- Rows with the same key keep their order. -/
theorem sorted_stable (z : Zone) (rows : List StopTime) (k : Int) :
    (sorted z rows).filter (·.sortKey z = k) = rows.filter (·.sortKey z = k) := by
  have level : (rows.filter (·.sortKey z = k)).Pairwise (fun a b => noLater z a b = true) := by
    refine List.pairwise_iff_forall_sublist.mpr ?_
    intro a b both
    have keys : ∀ r ∈ [a, b], r.sortKey z = k := by
      intro r member
      simpa using (List.mem_filter.mp (both.subset member)).2
    have same : a.sortKey z = b.sortKey z := (keys a (by simp)).trans (keys b (by simp)).symm
    exact (noLater_iff z a b).mpr (Int.le_of_eq same)
  have inOrder := (List.sublist_mergeSort (noLater_trans z) (noLater_total z) level
    List.filter_sublist).filter (·.sortKey z = k)
  rw [List.filter_filter, ← sorted_eq] at inOrder
  simp only [Bool.and_self] at inOrder
  exact (inOrder.eq_of_length ((sorted_perm z rows).filter _).length_eq.symm).symm

/-- The key is the midnight of the service date, if there is one, plus the departure, else the
arrival, else the realtime estimate. -/
theorem sortKey_eq (z : Zone) (r : StopTime) :
    r.sortKey z = (r.serviceDate.bind z.serviceMidnight?).elim 0 (·.instant.seconds) +
      ((r.departureTime.or r.arrivalTime).or (r.estimate? z)).elim Number.Range.int32.hi
        (·.seconds) := by
  have seconds : r.sortSeconds z =
      ((r.departureTime.or r.arrivalTime).or (r.estimate? z)).elim Number.Range.int32.hi
        (·.seconds) := by
    rw [sortSeconds]
    cases r.departureTime.or r.arrivalTime with
    | some t => rfl
    | none => cases r.estimate? z <;> rfl
  rw [sortKey, seconds]
  cases r.serviceDate.bind z.serviceMidnight? with
  | some midnight => rfl
  | none => exact (Int.zero_add _).symm

/-! ## The rows of a merge -/

/-- The row stands for a call that a trip outside the schedule makes at a stop: it belongs to no
scheduled trip, has no times of its own, and leaves open what the call does not say. -/
structure StandsFor (r : StopTime) (stop : Stop) (date : Option Date) (t : TripUpdate)
    (u : StopTimeUpdate) : Prop where
  added : t.trip.scheduleRelationship = some 1
  listed : u ∈ t.stopTimeUpdates
  calls : u.stopId = some stop.stopId
  version : r.feedVersionId = stop.feedVersionId
  unscheduled : r.tripId = 0
  stop : r.stopId = stop.id
  sequence : r.stopSequence = Number.Range.int32.wrap (u.stopSequence.getD 0)
  named : r.rtTripId = t.trip.tripId
  update : r.update = some { update := some u, lastDelay := none }
  serviceDate : r.serviceDate = date
  date : r.date = date
  untimed : r.arrivalTime = none ∧ r.departureTime = none
  unsaid : r.stopHeadsign = none ∧ r.pickupType = none ∧ r.dropOffType = none ∧
    r.timepoint = none ∧ r.shapeDistTraveled = none

theorem standsFor_ofAdded {s : Snapshot} {stop : Stop} {call : TripUpdate × StopTimeUpdate}
    (member : call ∈ s.addedCalls stop.stopId) (date : Option Date) :
    (ofAdded stop date call.1 call.2).StandsFor stop date call.1 call.2 := by
  obtain ⟨t, inFeeds, inTrip⟩ := List.mem_flatMap.mp member
  obtain ⟨u, isCall, rfl⟩ := List.mem_map.mp inTrip
  obtain ⟨listed, here⟩ := List.mem_filter.mp isCall
  have added : t.isAdded = true := (List.mem_filter.mp inFeeds).2
  exact ⟨beq_iff_eq.mp added, listed, beq_iff_eq.mp here, rfl, rfl, rfl, rfl, rfl, rfl, rfl, rfl,
    ⟨rfl, rfl⟩, rfl, rfl, rfl, rfl, rfl⟩

theorem addedRows_eq (s : Snapshot) (stop : Stop) (serviceDate : Option Date) :
    addedRows s stop serviceDate = (s.addedCalls stop.stopId).map fun call =>
      ofAdded stop serviceDate call.1 call.2 := by
  rw [addedRows, Snapshot.addedTrips, Snapshot.addedCalls]
  generalize (s.tripSources.flatMap fun source => source.trips.map (·.2)) = trips
  induction trips with
  | nil => rfl
  | cons t rest ih =>
    rw [List.filter_cons, List.filter_cons]
    cases added : t.isAdded with
    | false => simpa [added] using ih
    | true =>
      rw [if_pos rfl, List.flatMap_cons, List.map_append, List.map_map, ← ih]
      cases calls : t.callsAt stop.stopId with
      | true =>
        rw [if_pos (by rfl), List.flatMap_cons]
        rfl
      | false =>
        -- A trip that does not call at the stop has no row to lose.
        have none : t.stopTimeUpdates.filter (·.stopId == some stop.stopId) = [] := by
          rw [TripUpdate.callsAt, List.any_eq_false] at calls
          exact List.filter_eq_nil_iff.mpr calls
        rw [if_neg (by simp), none]
        rfl

/-- Each call has its row. -/
theorem standFor_addedRows (s : Snapshot) (stop : Stop) (date : Option Date) :
    List.Forall₂ (fun call row => StandsFor row stop date call.1 call.2)
      (s.addedCalls stop.stopId) (addedRows s stop date) := by
  rw [addedRows_eq, List.forall₂_map_right_iff, List.forall₂_same]
  exact fun call member => standsFor_ofAdded member date

theorem addedRows_of_isEmpty {s : Snapshot} (empty : s.isEmpty = true) (stop : Stop)
    (serviceDate : Option Date) : addedRows s stop serviceDate = [] := by
  rw [Snapshot.isEmpty, List.isEmpty_iff] at empty
  rw [addedRows, Snapshot.addedTrips, Snapshot.tripSources, empty]
  rfl

/-- Rows outside the schedule have no time of their own. -/
theorem seconds_of_mem_addedRows {snapshot : Realtime.Snapshot} {s : Stop}
    {date : Option Date} {r : StopTime} (member : r ∈ addedRows snapshot s date) :
    r.seconds? = none := by
  obtain ⟨t, _, inTrip⟩ := List.mem_flatMap.mp member
  obtain ⟨u, _, rfl⟩ := List.mem_map.mp inTrip
  rfl

theorem attach_eq (s : Snapshot) (stop : Stop) (row : StopTime) (tripId : Option String) :
    ∃ update, row.attach s stop tripId = { row with update } := by
  cases tripId with
  | none => exact ⟨row.update, rfl⟩
  | some id => exact ⟨_, rfl⟩

end StopTime

namespace Task

variable {g : Gateway}

theorem run_remember {α : Type} (lookup : Warehouse → IdCache → Remembered α) (g : Gateway) :
    (remember lookup).run g = ((lookup g.warehouse g.ids).answer,
      { g with
        ids := (lookup g.warehouse g.ids).cache
        calls := (lookup g.warehouse g.ids).calls.reverse ++ g.calls }) := rfl

/-- Rows keep their order when the ids of their trips are looked up. -/
theorem tripIdsOf_rows {rows : List StopTime} {found : List (StopTime × Option String)}
    (ran : ((tripIdsOf rows).run g).1 = .ok found) : found.map (·.1) = rows := by
  induction rows generalizing g found with
  | nil =>
    obtain rfl := Except.ok.inj ran
    rfl
  | cons row rest ih =>
    rw [tripIdsOf] at ran
    split at ran
    · rw [run_bind] at ran
      cases others : ((tripIdsOf rest).run g).1 with
      | error e =>
        rw [others] at ran
        cases ran
      | ok more =>
        rw [others] at ran
        obtain rfl := Except.ok.inj ran
        rw [List.map_cons, ih others]
    · rw [run_bind] at ran
      cases known : ((remember (IdCache.tripId row.tripId)).run g).1 with
      | error e =>
        rw [known] at ran
        cases ran
      | ok tripId =>
        rw [known] at ran
        dsimp only at ran
        rw [run_bind] at ran
        generalize ((remember (IdCache.tripId row.tripId)).run g).2 = next at ran
        cases others : ((tripIdsOf rest).run next).1 with
        | error e =>
          rw [others] at ran
          cases ran
        | ok more =>
          rw [others] at ran
          obtain rfl := Except.ok.inj ran
          rw [List.map_cons, ih others]

theorem mergeStopTimes_of_isEmpty {snapshot : Realtime.Snapshot} (empty : snapshot.isEmpty = true)
    (s : Stop) (z : Zone) (rows : List StopTime) (addedDate : Option Date) (g : Gateway) :
    (mergeStopTimes snapshot s z rows addedDate).run g = (.ok (StopTime.sorted z rows), g) := by
  rw [mergeStopTimes, if_pos empty]
  rfl

/-- The ids of trips can always be looked up. -/
theorem tripIdsOf_run (rows : List StopTime) (g : Gateway) :
    ∃ found, ((tripIdsOf rows).run g).1 = .ok found := by
  induction rows generalizing g with
  | nil => exact ⟨[], rfl⟩
  | cons row rest ih =>
    rw [tripIdsOf]
    split
    · obtain ⟨found, others⟩ := ih g
      rw [run_bind, others]
      exact ⟨_, rfl⟩
    · obtain ⟨tripId, known⟩ : ∃ tripId,
          ((remember (IdCache.tripId row.tripId)).run g).1 = .ok tripId := by
        rw [run_remember, IdCache.tripId]
        split <;> exact ⟨_, rfl⟩
      rw [run_bind, known]
      obtain ⟨found, others⟩ := ih ((remember (IdCache.tripId row.tripId)).run g).2
      dsimp only
      rw [run_bind, others]
      exact ⟨_, rfl⟩

/-- A merge orders the scheduled rows, which differ from what they were in their updates at most,
together with the rows of all calls outside the schedule. -/
theorem mergeStopTimes_run (s : Snapshot) (stop : Stop) (z : Zone) (rows : List StopTime)
    (addedDate : Option Date) (g : Gateway) :
    ∃ overlaid, ((mergeStopTimes s stop z rows addedDate).run g).1 =
        .ok (StopTime.sorted z (overlaid ++ StopTime.addedRows s stop addedDate)) ∧
      List.Forall₂ (fun row merged : StopTime => ∃ update, merged = { row with update }) rows
        overlaid := by
  cases empty : s.isEmpty with
  | true =>
    refine ⟨rows, ?_, ?_⟩
    · rw [mergeStopTimes_of_isEmpty empty, StopTime.addedRows_of_isEmpty empty, List.append_nil]
    · exact List.forall₂_same.mpr fun row _ => ⟨row.update, rfl⟩
  | false =>
    obtain ⟨found, known⟩ := tripIdsOf_run rows g
    refine ⟨found.map fun pair => pair.1.attach s stop pair.2, ?_, ?_⟩
    · rw [mergeStopTimes, if_neg (by simp [empty]), run_bind, known]
      rfl
    · rw [← tripIdsOf_rows known, List.forall₂_map_left_iff, List.forall₂_map_right_iff]
      exact List.forall₂_same.mpr fun pair _ => StopTime.attach_eq s stop pair.1 pair.2

/-- A row that is returned is a scheduled one, but for its update, or stands for a trip outside the
schedule. -/
theorem mem_mergeStopTimes {snapshot : Realtime.Snapshot} {s : Stop} {z : Zone}
    {rows merged : List StopTime} {addedDate : Option Date}
    (ran : ((mergeStopTimes snapshot s z rows addedDate).run g).1 = .ok merged) {r : StopTime}
    (member : r ∈ merged) :
    (∃ row ∈ rows, ∃ update, r = { row with update }) ∨
      r ∈ StopTime.addedRows snapshot s addedDate := by
  obtain ⟨overlaid, runs, frame⟩ := mergeStopTimes_run snapshot s z rows addedDate g
  obtain rfl := Except.ok.inj (ran.symm.trans runs)
  rw [StopTime.mem_sorted, List.mem_append] at member
  refine member.imp_left ?_
  intro inOverlaid
  exact exists_of_forall₂ frame inOverlaid

/-- A merge returns every row once, scheduled rows with nothing changed but their updates, and one
row for each call of a trip outside the schedule. It orders them by midnight of the service date
plus departure, else arrival, else realtime estimate; among rows that leave at the same time the
scheduled ones stand first, in the order in which they came. -/
theorem merge_keeps_rows (s : Snapshot) (stop : Stop) (z : Zone) (rows : List StopTime)
    (addedDate : Option Date) (g : Gateway) :
    let key : StopTime → Int := fun r =>
      (r.serviceDate.bind z.serviceMidnight?).elim 0 (·.instant.seconds) +
        ((r.departureTime.or r.arrivalTime).or (r.estimate? z)).elim Number.Range.int32.hi
          (·.seconds)
    ∃ merged overlaid synthetic,
      ((mergeStopTimes s stop z rows addedDate).run g).1 = .ok merged ∧
      List.Forall₂ (fun row merged : StopTime => ∃ update, merged = { row with update }) rows
        overlaid ∧
      List.Forall₂ (fun call (row : StopTime) => row.StandsFor stop addedDate call.1 call.2)
        (s.addedCalls stop.stopId) synthetic ∧
      merged.Perm (overlaid ++ synthetic) ∧
      merged.Pairwise (fun a b => key a ≤ key b) ∧
      ∀ k, merged.filter (key · = k) = overlaid.filter (key · = k) ++ synthetic.filter (key · = k)
    := by
  intro key
  have isKey : key = (StopTime.sortKey z) := by
    funext r
    exact (StopTime.sortKey_eq z r).symm
  obtain ⟨overlaid, ran, frame⟩ := mergeStopTimes_run s stop z rows addedDate g
  have standing := StopTime.standFor_addedRows s stop addedDate
  rw [isKey]
  refine ⟨_, overlaid, _, ran, frame, standing, StopTime.sorted_perm z _,
    StopTime.sorted_ordered z _, ?_⟩
  intro k
  rw [← List.filter_append]
  exact StopTime.sorted_stable z (overlaid ++ StopTime.addedRows s stop addedDate) k

/-- A trip outside the schedule that makes one call. -/
def extraTripOf (id : String) (call : StopTimeUpdate) : TripUpdate where
  trip := { tripId := some id, scheduleRelationship := some 1 }
  stopTimeUpdates := [call]

/-- A call at 10:30 on the first day of 1970, and one at no time. -/
def timedCall : StopTimeUpdate where
  stopSequence := some 4
  stopId := some "S"
  departure := some { time := some 37800 }

def openCall : StopTimeUpdate where
  stopId := some "S"

def extraTripsOfTwoFeeds : Snapshot where
  feeds := [
    { feed := "BA", tripUpdates := some { trips := [("X", extraTripOf "X" timedCall)] } },
    { feed := "CT", tripUpdates := some { trips := [("Y", extraTripOf "Y" openCall)] } }]

/-- Of two trips outside the schedule, each of its own feed, one leaves at the time of a scheduled
row and comes right after it, and the other has no time and comes last. -/
theorem merge_keeps_rows_of_two_feeds :
    let utc : Zone := ⟨"UTC", 0, []⟩
    let stop : Stop := { id := 7, feedVersionId := 1, stopId := "S" }
    let row : StopTime := {
      feedVersionId := 1, tripId := 5, stopId := 7, stopSequence := 1
      departureTime := some ⟨37800⟩, serviceDate := some ⟨0⟩ }
    let g : Gateway := {
      warehouse := { trips := [{ id := 5, feedVersionId := 1, tripId := "T" }] }
      request := .start {} {} }
    ∃ merged update first second,
      ((mergeStopTimes extraTripsOfTwoFeeds stop utc [row] (some ⟨0⟩)).run g).1 = .ok merged ∧
      first.StandsFor stop (some ⟨0⟩) (extraTripOf "X" timedCall) timedCall ∧
      second.StandsFor stop (some ⟨0⟩) (extraTripOf "Y" openCall) openCall ∧
      merged.Perm [{ row with update }, first, second] ∧
      merged.map (fun r => (r.tripId, r.rtTripId, r.stopSequence)) =
        [(5, none, 1), (0, some "X", 4), (0, some "Y", 0)] := by
  intro utc stop row g
  let added (id : String) (call : StopTimeUpdate) : StopTime :=
    StopTime.ofAdded stop (some ⟨0⟩) (extraTripOf id call) call
  obtain ⟨merged, overlaid, synthetic, ran, frame, standing, same, _⟩ :=
    merge_keeps_rows extraTripsOfTwoFeeds stop utc [row] (some ⟨0⟩) g
  have ordered : merged = [row, added "X" timedCall, added "Y" openCall] := by
    have sorts : merged = StopTime.sorted utc [row, added "X" timedCall, added "Y" openCall] :=
      Except.ok.inj (ran.symm.trans rfl)
    rw [sorts, StopTime.sorted_eq]
    exact List.mergeSort_of_pairwise (by decide)
  obtain ⟨first, second, isFirst, isSecond, rfl⟩ : ∃ first second,
      first.StandsFor stop (some ⟨0⟩) (extraTripOf "X" timedCall) timedCall ∧
      second.StandsFor stop (some ⟨0⟩) (extraTripOf "Y" openCall) openCall ∧
      synthetic = [first, second] := by
    have calls : extraTripsOfTwoFeeds.addedCalls "S" =
        [(extraTripOf "X" timedCall, timedCall), (extraTripOf "Y" openCall, openCall)] := rfl
    obtain ⟨first, rest, isFirst, others, rfl⟩ := List.forall₂_cons_left_iff.mp (calls ▸ standing)
    obtain ⟨second, _, isSecond, none, rfl⟩ := List.forall₂_cons_left_iff.mp others
    obtain rfl := List.forall₂_nil_left_iff.mp none
    exact ⟨first, second, isFirst, isSecond, rfl⟩
  obtain ⟨_, _, ⟨update, rfl⟩, none, rfl⟩ := List.forall₂_cons_left_iff.mp frame
  obtain rfl := List.forall₂_nil_left_iff.mp none
  exact ⟨merged, update, first, second, ran, isFirst, isSecond, same, by rw [ordered]; decide⟩

end Task

end Transit
