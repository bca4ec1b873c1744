import Transit.Proofs.Field.DateWindow
import Transit.Proofs.Realtime.Ordering
set_option autoImplicit false

/-!
# The order of scheduled rows

The time of its own at which a row leaves does not come from realtime, so rows that have one stand
in the same order whatever the messages say (`order_steady`). A row without one, scheduled or not,
has no other place than that of its realtime estimate, and goes there when a message gives it one
(`untimed_row_moves`).
-/

namespace Transit

open Realtime

/-- Two lists are equal that are in the order of a key, if they are so level by level. -/
theorem eq_of_levels {α : Type} (key : α → Int) {xs ys : List α}
    (orderedX : xs.Pairwise fun a b => key a ≤ key b)
    (orderedY : ys.Pairwise fun a b => key a ≤ key b)
    (levels : ∀ k, xs.filter (key · = k) = ys.filter (key · = k)) : xs = ys := by
  induction xs generalizing ys with
  | nil =>
    refine (List.eq_nil_iff_forall_not_mem.mpr ?_).symm
    intro y member
    have inLevel : y ∈ ys.filter (key · = key y) := List.mem_filter.mpr ⟨member, by simp⟩
    rw [← levels] at inLevel
    cases inLevel
  | cons x xs ih =>
    have xInY : x ∈ ys := by
      have inLevel : x ∈ (x :: xs).filter (key · = key x) :=
        List.mem_filter.mpr ⟨List.mem_cons_self, by simp⟩
      rw [levels] at inLevel
      exact (List.mem_filter.mp inLevel).1
    cases ys with
    | nil => cases xInY
    | cons y ys =>
      have yInX : y ∈ x :: xs := by
        have inLevel : y ∈ (y :: ys).filter (key · = key y) :=
          List.mem_filter.mpr ⟨List.mem_cons_self, by simp⟩
        rw [← levels] at inLevel
        exact (List.mem_filter.mp inLevel).1
      obtain ⟨leastX, restX⟩ := List.pairwise_cons.mp orderedX
      obtain ⟨leastY, restY⟩ := List.pairwise_cons.mp orderedY
      have xFirst : key x ≤ key y := by
        rcases List.mem_cons.mp yInX with rfl | later
        · exact Int.le_refl _
        · exact leastX y later
      have yFirst : key y ≤ key x := by
        rcases List.mem_cons.mp xInY with rfl | later
        · exact Int.le_refl _
        · exact leastY x later
      have sameKey : key y = key x := Int.le_antisymm yFirst xFirst
      -- Both heads are the first of the lowest level.
      have lowest := levels (key x)
      rw [List.filter_cons_of_pos (by simp), List.filter_cons_of_pos (by simp [sameKey])] at lowest
      obtain ⟨rfl, _⟩ := List.cons_eq_cons.mp lowest
      congr 1
      refine ih restX restY ?_
      intro k
      have level := levels k
      by_cases here : key x = k
      · rw [List.filter_cons_of_pos (by simp [here]), List.filter_cons_of_pos (by simp [here])]
          at level
        exact (List.cons_eq_cons.mp level).2
      · rw [List.filter_cons_of_neg (by simp [here]), List.filter_cons_of_neg (by simp [here])]
          at level
        exact level

namespace StopTime

/-- A row as the schedule has it. -/
def bare (r : StopTime) : StopTime := { r with update := none }

/-- A row has a departure or an arrival of its own. -/
def isTimed (r : StopTime) : Bool := r.seconds?.isSome

/-- A row is for a trip in the schedule. -/
def isScheduled (r : StopTime) : Bool := r.tripId != addedTripId

theorem isTimed_of_mem_addedRows {s : Snapshot} {stop : Stop} {date : Option Date} {r : StopTime}
    (member : r ∈ addedRows s stop date) : r.isTimed = false := by
  rw [isTimed, seconds_of_mem_addedRows member]
  rfl

theorem isScheduled_of_mem_addedRows {s : Snapshot} {stop : Stop} {date : Option Date}
    {r : StopTime} (member : r ∈ addedRows s stop date) : r.isScheduled = false := by
  obtain ⟨t, _, inTrip⟩ := List.mem_flatMap.mp member
  obtain ⟨u, _, rfl⟩ := List.mem_map.mp inTrip
  rfl

/-- A row leaves when the schedule says, unless it has no time of its own and an estimate. -/
theorem sortKey_bare (z : Zone) {r : StopTime}
    (own : r.isTimed = true ∨ r.estimate? z = none) : r.bare.sortKey z = r.sortKey z := by
  rw [sortKey_eq, sortKey_eq]
  have same : (r.departureTime.or r.arrivalTime).or (r.bare.estimate? z) =
      (r.departureTime.or r.arrivalTime).or (r.estimate? z) := by
    rcases own with timed | none
    · obtain ⟨t, known⟩ := Option.isSome_iff_exists.mp timed
      obtain ⟨clock, known, _⟩ := Option.map_eq_some_iff.mp known
      rw [known]
      rfl
    · rw [none]
      rfl
  exact congrArg _ (congrArg (·.elim Number.Range.int32.hi fun t : WideTime => (t.seconds : Int)) same)

/-- Rows that leave when the schedule says stand in the order of the schedule. -/
theorem map_bare_filter_sorted (z : Zone) (p : StopTime → Bool) (rows : List StopTime)
    (steady : ∀ r ∈ rows, p r = true → r.bare.sortKey z = r.sortKey z) :
    ((sorted z rows).filter p).map bare = sorted z ((rows.filter p).map bare) := by
  refine eq_of_levels (sortKey z) ?_ (sorted_ordered z _) ?_
  · rw [List.pairwise_map]
    refine ((sorted_ordered z rows).filter p).imp_of_mem ?_
    intro a b inA inB before
    obtain ⟨inA, pA⟩ := List.mem_filter.mp inA
    obtain ⟨inB, pB⟩ := List.mem_filter.mp inB
    rwa [steady a (mem_sorted.mp inA) pA, steady b (mem_sorted.mp inB) pB]
  · intro k
    -- A level of the rows as the schedule has them is that level of the rows with their updates.
    have level (list : List StopTime) (part : ∀ r ∈ list, r ∈ rows) :
        ((list.filter p).map bare).filter (·.sortKey z = k) =
          ((list.filter (·.sortKey z = k)).filter p).map bare := by
      rw [List.filter_map, List.filter_filter, List.filter_filter]
      congr 1
      refine List.filter_congr ?_
      intro r member
      cases holds : p r with
      | false => simp
      | true => simp [steady r (part r member) holds]
    rw [sorted_stable, level _ fun r member => mem_sorted.mp member, level _ fun r member => member,
      sorted_stable]

end StopTime

namespace Task

open StopTime (bare isTimed isScheduled)

variable {g : Gateway} {s : Snapshot} {stop : Stop} {z : Zone} {rows merged : List StopTime}
  {addedDate : Option Date}

/-- Of the rows of a merge, take some that are known without their updates, none of them outside the
schedule. They stand in the order of the schedule if they leave when it says. -/
theorem merged_in_order (ran : ((mergeStopTimes s stop z rows addedDate).run g).1 = .ok merged)
    (p : StopTime → Bool) (plain : ∀ r, p r.bare = p r)
    (added : ∀ r ∈ StopTime.addedRows s stop addedDate, p r = false)
    (steady : ∀ r ∈ merged, p r = true → r.bare.sortKey z = r.sortKey z) :
    (merged.filter p).map bare = StopTime.sorted z ((rows.filter p).map bare) := by
  obtain ⟨overlaid, runs, frame⟩ := mergeStopTimes_run s stop z rows addedDate g
  obtain rfl := Except.ok.inj (ran.symm.trans runs)
  have none : (StopTime.addedRows s stop addedDate).filter p = [] := by
    refine List.filter_eq_nil_iff.mpr fun r member => ?_
    simp [added r member]
  have same : (overlaid.filter p).map bare = (rows.filter p).map bare := by
    clear runs ran steady
    induction frame with
    | nil => rfl
    | @cons row _ rest others overlay _ ih =>
      obtain ⟨update, rfl⟩ := overlay
      have alike : p { row with update } = p row := (plain _).symm.trans (plain row)
      rw [List.filter_cons, List.filter_cons, alike]
      cases p row with
      | false => exact ih
      | true => exact congrArg (row.bare :: ·) ih
  rw [StopTime.map_bare_filter_sorted z p _ fun r member => steady r (StopTime.mem_sorted.mpr member),
    List.filter_append, none, List.append_nil, same]

/-- The rows of a stop are merged with two different snapshots. Those that have a time of their own
come in the same order from both merges. All scheduled rows do if neither snapshot has an estimate
for a row without times, which is sorted by its estimate. -/
theorem order_steady (stop : Stop) (z : Zone) (rows : List StopTime) (s s' : Snapshot)
    (addedDate addedDate' : Option Date) (g g' : Gateway) :
    ∃ merged merged', ((mergeStopTimes s stop z rows addedDate).run g).1 = .ok merged ∧
      ((mergeStopTimes s' stop z rows addedDate').run g').1 = .ok merged' ∧
      (merged.filter isTimed).map bare = (merged'.filter isTimed).map bare ∧
      ((∀ r ∈ merged ++ merged', r.isScheduled = true → r.isTimed = false → r.estimate? z = none) →
        (merged.filter isScheduled).map bare = (merged'.filter isScheduled).map bare) := by
  obtain ⟨_, ran, _⟩ := mergeStopTimes_run s stop z rows addedDate g
  obtain ⟨_, ran', _⟩ := mergeStopTimes_run s' stop z rows addedDate' g'
  refine ⟨_, _, ran, ran', ?_, ?_⟩
  · have timed {snapshot : Snapshot} {date : Option Date} {h : Gateway} {result : List StopTime}
        (runs : ((mergeStopTimes snapshot stop z rows date).run h).1 = .ok result) :
        (result.filter isTimed).map bare = StopTime.sorted z ((rows.filter isTimed).map bare) :=
      merged_in_order runs isTimed (fun _ => rfl)
        (fun _ => StopTime.isTimed_of_mem_addedRows)
        fun _ _ timed => StopTime.sortKey_bare z (.inl timed)
    rw [timed ran, timed ran']
  · intro unmoved
    have scheduled {snapshot : Snapshot} {date : Option Date} {h : Gateway} {result : List StopTime}
        (runs : ((mergeStopTimes snapshot stop z rows date).run h).1 = .ok result)
        (still : ∀ r ∈ result, r.isScheduled = true → r.isTimed = false → r.estimate? z = none) :
        (result.filter isScheduled).map bare =
          StopTime.sorted z ((rows.filter isScheduled).map bare) := by
      refine merged_in_order runs isScheduled (fun _ => rfl)
        (fun _ => StopTime.isScheduled_of_mem_addedRows) ?_
      intro r member inSchedule
      cases timed : r.isTimed with
      | true => exact StopTime.sortKey_bare z (.inl timed)
      | false => exact StopTime.sortKey_bare z (.inr (still r member inSchedule timed))
    rw [scheduled ran fun r member => unmoved r (List.mem_append_left _ member),
      scheduled ran' fun r member => unmoved r (List.mem_append_right _ member)]

/-- A call without times on 30 May 2018. -/
def untimedCall : StopTime :=
  { feedVersionId := 1, tripId := 6, stopId := 7, stopSequence := 1, serviceDate := some ⟨17681⟩ }

/-- A message about the departure of the call without times. -/
def untimedSnapshot (departure : TimeEvent) : Snapshot where
  feeds := [{ feed := "BA", tripUpdates := some { trips := [("U", {
    trip := { tripId := some "U" }
    stopTimeUpdates := [{
      stopSequence := some 1, stopId := some "S", departure := some departure }] })] } }]

def untimedGateway : Gateway where
  warehouse := {
    trips := [{ id := 5, feedVersionId := 1, tripId := "T", serviceId := 1 },
      { id := 6, feedVersionId := 1, tripId := "U", serviceId := 1 }] }
  request := .start {} {}

/-- A delay does not move the call without times. -/
theorem order_steady_of_delay :
    let utc : Zone := ⟨"UTC", 0, []⟩
    let rows := [(Stop.leaving 36000).stamp ⟨17681⟩, untimedCall]
    ∃ merged merged',
      ((mergeStopTimes ⟨[]⟩ Stop.nightStop utc rows none).run untimedGateway).1 = .ok merged ∧
      ((mergeStopTimes (untimedSnapshot { delay := some 60 }) Stop.nightStop utc rows none).run
        untimedGateway).1 = .ok merged' ∧
      (∀ r ∈ merged ++ merged', r.isScheduled = true → r.isTimed = false →
        r.estimate? utc = none) ∧
      (merged.filter isScheduled).map bare = (merged'.filter isScheduled).map bare := by
  intro utc rows
  let delayed := { untimedCall with
    update := (untimedSnapshot { delay := some 60 }).visit? "U" 1 (some "S") }
  obtain ⟨merged, merged', ran, ran', _, whole⟩ := order_steady Stop.nightStop utc rows ⟨[]⟩
    (untimedSnapshot { delay := some 60 }) none none untimedGateway untimedGateway
  have first : merged = StopTime.sorted utc rows := by
    rw [mergeStopTimes_of_isEmpty rfl] at ran
    exact (Except.ok.inj ran).symm
  have second : merged' = StopTime.sorted utc [(Stop.leaving 36000).stamp ⟨17681⟩, delayed] :=
    Except.ok.inj (ran'.symm.trans rfl)
  have unmoved : ∀ r ∈ merged ++ merged', r.isScheduled = true → r.isTimed = false →
      r.estimate? utc = none := by
    intro r member
    rw [first, second, List.mem_append, StopTime.mem_sorted, StopTime.mem_sorted,
      ← List.mem_append] at member
    revert r
    decide
  exact ⟨merged, merged', ran, ran', unmoved, whole unmoved⟩

/-- A call without times comes after a departure at 10:00, and before it once a message says that
it leaves at 09:00. -/
theorem untimed_row_moves :
    let utc : Zone := ⟨"UTC", 0, []⟩
    let rows := [(Stop.leaving 36000).stamp ⟨17681⟩, untimedCall]
    ∃ merged merged',
      ((mergeStopTimes ⟨[]⟩ Stop.nightStop utc rows none).run untimedGateway).1 = .ok merged ∧
      ((mergeStopTimes (untimedSnapshot { time := some 1527670800 }) Stop.nightStop utc rows
        none).run untimedGateway).1 = .ok merged' ∧
      merged.map (·.tripId) = [5, 6] ∧ merged'.map (·.tripId) = [6, 5] ∧
      (merged.filter isScheduled).map bare ≠ (merged'.filter isScheduled).map bare := by
  intro utc rows
  let message := untimedSnapshot { time := some 1527670800 }
  let moved := { untimedCall with update := message.visit? "U" 1 (some "S") }
  have before : ((mergeStopTimes ⟨[]⟩ Stop.nightStop utc rows none).run untimedGateway).1 =
      .ok rows := by
    rw [mergeStopTimes_of_isEmpty rfl, StopTime.sorted_eq]
    exact congrArg Except.ok (List.mergeSort_of_pairwise (by decide))
  have after : ((mergeStopTimes message Stop.nightStop utc rows none).run untimedGateway).1 =
      .ok [moved, (Stop.leaving 36000).stamp ⟨17681⟩] := by
    have ran : ((mergeStopTimes message Stop.nightStop utc rows none).run untimedGateway).1 =
        .ok (StopTime.sorted utc [(Stop.leaving 36000).stamp ⟨17681⟩, moved]) := rfl
    have later : StopTime.noLater utc ((Stop.leaving 36000).stamp ⟨17681⟩) moved = false := by
      decide
    rw [ran, StopTime.sorted_cons, StopTime.sorted_singleton]
    simp [later]
  refine ⟨_, _, before, after, rfl, rfl, ?_⟩
  decide

end Task

end Transit
