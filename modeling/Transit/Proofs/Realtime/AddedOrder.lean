import Transit.Proofs.Realtime.Visits
set_option autoImplicit false

/-!
# The order of rows outside the schedule

A row outside the schedule leaves at the time that its update reports, of the departure or else of
the arrival. It is ordered by the time of its first event alone, counted from the midnight of the
date that it is given, and comes last where this fails. So two such rows stand in the order of their
times where the first of them is read in time, and otherwise in the order in which they are listed
or the wrong way round (`added_in_order_iff`).
-/

namespace Transit

open Realtime

/-- Two elements of a list stand in one order or the other. -/
theorem pair_sublist_or {α : Type} {xs : List α} {a b : α} (inA : a ∈ xs) (inB : b ∈ xs)
    (different : a ≠ b) : [a, b].Sublist xs ∨ [b, a].Sublist xs := by
  obtain ⟨before, after, rfl⟩ := List.mem_iff_append.mp inA
  rcases List.mem_append.mp inB with earlier | later
  · have first : [b].Sublist before := List.singleton_sublist.mpr earlier
    have second : [a].Sublist (a :: after) := List.singleton_sublist.mpr List.mem_cons_self
    exact .inr (first.append second)
  · have rest : [b].Sublist after := by
      rcases List.mem_cons.mp later with same | inRest
      · exact absurd same.symm different
      · exact List.singleton_sublist.mpr inRest
    exact .inl ((rest.cons_cons a).trans (List.sublist_append_right before (a :: after)))

namespace StopTime

variable {z : Zone} {rows : List StopTime} {a b : StopTime}

/-- Of two rows that are sorted, one stands before the other if it leaves earlier, or at the same
time and stood before it. -/
theorem pair_sublist_sorted_iff (inA : a ∈ rows) (inB : b ∈ rows) :
    [a, b].Sublist (sorted z rows) ↔ a.sortKey z < b.sortKey z ∨
      (a.sortKey z = b.sortKey z ∧ [a, b].Sublist rows) := by
  constructor
  · intro inOrder
    have ordered := (sorted_ordered z rows).sublist inOrder
    rcases Int.lt_or_eq_of_le (List.rel_of_pairwise_cons ordered List.mem_cons_self) with
      earlier | same
    · exact .inl earlier
    · have level := inOrder.filter (·.sortKey z = b.sortKey z)
      rw [sorted_stable] at level
      simp only [List.filter_cons, same, decide_true, if_true, List.filter_nil] at level
      exact .inr ⟨same, level.trans List.filter_sublist⟩
  · rintro (earlier | ⟨same, stood⟩)
    · have different : a ≠ b := by
        rintro rfl
        exact absurd earlier (Int.lt_irrefl _)
      rcases pair_sublist_or (mem_sorted.mpr inA) (mem_sorted.mpr inB) different with right | wrong
      · exact right
      · have ordered := (sorted_ordered z rows).sublist wrong
        have before := List.rel_of_pairwise_cons ordered List.mem_cons_self
        exact absurd before (Int.not_le.mpr earlier)
    · rw [sorted_eq]
      exact List.pair_sublist_mergeSort (noLater_trans z) (noLater_total z)
        ((noLater_iff z a b).mpr (Int.le_of_eq same)) stood

theorem not_pair_sublist_sorted_iff (inA : a ∈ rows) (inB : b ∈ rows) :
    ¬ [b, a].Sublist (sorted z rows) ↔ a.sortKey z < b.sortKey z ∨
      (a.sortKey z = b.sortKey z ∧ ¬ [b, a].Sublist rows) := by
  rw [pair_sublist_sorted_iff inB inA, not_or, Int.not_lt, not_and, Int.le_iff_lt_or_eq]
  constructor
  · rintro ⟨earlier | same, stood⟩
    · exact .inl earlier
    · exact .inr ⟨same, stood same.symm⟩
  · rintro (earlier | ⟨same, stood⟩)
    · exact ⟨.inl earlier, fun level => absurd level (Int.ne_of_gt earlier)⟩
    · exact ⟨.inr same, fun _ => stood⟩

end StopTime

namespace Realtime.StopTimeUpdate

/-- When the vehicle leaves, or else arrives. -/
def dueTime? (u : StopTimeUpdate) : Option Int :=
  (u.departure.bind (·.time)).or (u.arrival.bind (·.time))

/-- The time of the first of the two events that the update has. -/
def firstTime? (u : StopTimeUpdate) : Option Int :=
  (u.departure.or u.arrival).bind (·.time)

/-- The first event has a time within the calendar, which follows a midnight by less than the
seconds that 32 bits can hold. -/
def Timely (u : StopTimeUpdate) (midnight : Int) : Prop :=
  ∃ t, u.firstTime? = some t ∧ (Instant.ofUnix? t).isSome = true ∧ midnight ≤ t ∧
    t - midnight < Number.Range.int32.hi

/-- What a zone's clock shows at the time of the first event. -/
def clock (z : Zone) (u : StopTimeUpdate) : Int :=
  (u.firstTime?.bind Instant.ofUnix?).elim Number.Range.int32.hi fun at' => (z.localNow at').2

theorem dueTime?_of_firstTime? {u : StopTimeUpdate} {t : Int} (first : u.firstTime? = some t) :
    u.dueTime? = some t := by
  unfold firstTime? at first
  unfold dueTime?
  cases known : u.departure with
  | some e =>
    rw [known, Option.some_or, Option.bind_some] at first
    rw [Option.bind_some, first, Option.some_or]
  | none =>
    rw [known, Option.none_or] at first
    rw [Option.bind_none, Option.none_or, first]

theorem Timely.dueTime?_lt {u : StopTimeUpdate} {midnight due : Int} (timely : u.Timely midnight)
    (leaves : u.dueTime? = some due) : due < midnight + Number.Range.int32.hi := by
  obtain ⟨first, found, _, _, near⟩ := timely
  obtain rfl := Option.some.inj ((dueTime?_of_firstTime? found).symm.trans leaves)
  omega

end Realtime.StopTimeUpdate

theorem Instant.eq_of_ofUnix? {seconds : Int} {at' : Instant}
    (within : Instant.ofUnix? seconds = some at') : at' = ⟨seconds, 0⟩ := by
  unfold ofUnix? at within
  split at within
  · exact (Option.some.inj within).symm
  · cases within

namespace StopTime

variable {z : Zone} {stop : Stop} {date : Option Date} {t : TripUpdate} {u : StopTimeUpdate}

theorem sortKey_ofAdded (z : Zone) (stop : Stop) (date : Option Date) (t : TripUpdate)
    (u : StopTimeUpdate) :
    (ofAdded stop date t u).sortKey z = (date.bind z.serviceMidnight?).elim 0 (·.instant.seconds) +
      ((u.firstTime?.bind Instant.ofUnix?).bind fun at' =>
        WideTime.ofInstant? at' date z).elim Number.Range.int32.hi (·.seconds) := by
  have estimate : (ofAdded stop date t u).estimate? z =
      (u.firstTime?.bind Instant.ofUnix?).bind fun at' => WideTime.ofInstant? at' date z := by
    unfold StopTimeUpdate.firstTime?
    simp only [estimate?, ofAdded, Option.bind_eq_bind, Option.bind_some, Option.bind_assoc]
  rw [sortKey_eq, estimate]
  rfl

/-- A row whose first event is in time is ordered by that time. -/
theorem sortKey_of_timely {midnight : LocalInstant} {due : Int}
    (known : date.bind z.serviceMidnight? = some midnight)
    (timely : u.Timely midnight.instant.seconds) (leaves : u.dueTime? = some due) :
    (ofAdded stop date t u).sortKey z = due := by
  obtain ⟨first, found, dated, after, near⟩ := timely
  obtain rfl : first = due :=
    Option.some.inj ((StopTimeUpdate.dueTime?_of_firstTime? found).symm.trans leaves)
  obtain ⟨at', within⟩ := Option.isSome_iff_exists.mp dated
  obtain rfl := Instant.eq_of_ofUnix? within
  have holds : (0 ≤ first - midnight.instant.seconds &&
      Number.Range.int32.holds (first - midnight.instant.seconds)) = true := by
    rw [Bool.and_eq_true, decide_eq_true_eq, Number.Range.holds_iff]
    simp only [Number.Range.int32] at near ⊢
    omega
  rw [sortKey_ofAdded, found, Option.bind_some, within, Option.bind_some, known, Option.elim_some]
  simp only [WideTime.ofInstant?, known, holds, if_true, Option.elim_some]
  omega

/-- A row whose first event is not in time comes last. -/
theorem sortKey_of_not_timely {midnight : LocalInstant}
    (known : date.bind z.serviceMidnight? = some midnight)
    (untimely : ¬ u.Timely midnight.instant.seconds) :
    (ofAdded stop date t u).sortKey z =
      midnight.instant.seconds + Number.Range.int32.hi := by
  rw [sortKey_ofAdded, known, Option.elim_some]
  congr 1
  cases within : u.firstTime?.bind Instant.ofUnix? with
  | none => rfl
  | some at' =>
    obtain ⟨first, found, within⟩ := Option.bind_eq_some_iff.mp within
    obtain rfl := Instant.eq_of_ofUnix? within
    simp only [Option.bind_some, WideTime.ofInstant?, known]
    split
    · rename_i holds
      rw [Bool.and_eq_true, decide_eq_true_eq, Number.Range.holds_iff] at holds
      -- Only the last second that 32 bits can hold is left, which is the key of a row without time.
      have late : ¬ first - midnight.instant.seconds < Number.Range.int32.hi := by
        intro near
        exact untimely ⟨first, found, by rw [within]; rfl, by omega, near⟩
      have last : first - midnight.instant.seconds = Number.Range.int32.hi :=
        Int.le_antisymm holds.2.2 (Int.not_lt.mp late)
      rw [Option.elim_some, last]
      rfl
    · rfl

/-- Where the date has no midnight, a row is ordered by what the clock shows. -/
theorem sortKey_of_clock (unknown : date.bind z.serviceMidnight? = none) :
    (ofAdded stop date t u).sortKey z = u.clock z := by
  have key := sortKey_ofAdded z stop date t u
  simp only [unknown, Option.elim_none, WideTime.ofInstant?, Int.zero_add] at key
  rw [key, StopTimeUpdate.clock]
  cases u.firstTime?.bind Instant.ofUnix? <;> rfl

section
variable {midnight : LocalInstant} {t' : TripUpdate} {u' : StopTimeUpdate} {due due' : Int}

/-- Of two rows that leave one after the other, the first is ordered before the second if it is in
time, and level with it if neither is. -/
theorem sortKey_lt_or_eq_iff (known : date.bind z.serviceMidnight? = some midnight)
    (leaves : u.dueTime? = some due) (leaves' : u'.dueTime? = some due') (before : due < due')
    (level : Prop) :
    (ofAdded stop date t u).sortKey z < (ofAdded stop date t' u').sortKey z ∨
        ((ofAdded stop date t u).sortKey z = (ofAdded stop date t' u').sortKey z ∧ level) ↔
      u.Timely midnight.instant.seconds ∨ (¬ u'.Timely midnight.instant.seconds ∧ level) := by
  by_cases timely : u.Timely midnight.instant.seconds
  · have key : (ofAdded stop date t u).sortKey z = due := sortKey_of_timely known timely leaves
    have near := timely.dueTime?_lt leaves
    refine iff_of_true (.inl ?_) (.inl timely)
    by_cases timely' : u'.Timely midnight.instant.seconds
    · rw [key, sortKey_of_timely known timely' leaves']
      exact before
    · rw [key, sortKey_of_not_timely known timely']
      exact near
  · have key : (ofAdded stop date t u).sortKey z =
        midnight.instant.seconds + Number.Range.int32.hi := sortKey_of_not_timely known timely
    by_cases timely' : u'.Timely midnight.instant.seconds
    · have near := timely'.dueTime?_lt leaves'
      rw [key, sortKey_of_timely known timely' leaves']
      refine iff_of_false ?_ (by simp [timely, timely'])
      rintro (earlier | ⟨same, _⟩) <;> omega
    · rw [key, sortKey_of_not_timely known timely']
      simp [timely, timely']

end

end StopTime

namespace Task

/-- Two rows outside the schedule, of calls that leave one after the other, stand in this order if
the first event of the earlier one is in time. If neither is in time, or the date has no midnight
and the clock shows the same at both, they keep the order in which they are listed. -/
theorem added_in_order_iff (g : Gateway) (s : Snapshot) (stop : Stop) (z : Zone)
    (rows : List StopTime) (date : Option Date) {c c' : TripUpdate × StopTimeUpdate}
    (calls : c ∈ s.addedCalls stop.stopId) (calls' : c' ∈ s.addedCalls stop.stopId) {due due' : Int}
    (leaves : c.2.dueTime? = some due) (leaves' : c'.2.dueTime? = some due')
    (before : due < due') :
    let row (call : TripUpdate × StopTimeUpdate) := StopTime.ofAdded stop date call.1 call.2
    let listed := rows.map (g.overlay s stop) ++ (s.addedCalls stop.stopId).map row
    ∃ merged, ((mergeStopTimes s stop z rows date).run g).1 = .ok merged ∧ merged.Perm listed ∧
      (¬ [row c', row c].Sublist merged ↔
        match date.bind z.serviceMidnight? with
        | some midnight => c.2.Timely midnight.instant.seconds ∨
            (¬ c'.2.Timely midnight.instant.seconds ∧ ¬ [row c', row c].Sublist listed)
        | none => c.2.clock z < c'.2.clock z ∨
            (c.2.clock z = c'.2.clock z ∧ ¬ [row c', row c].Sublist listed)) := by
  intro row listed
  have merges : g.merged s stop z rows date = StopTime.sorted z listed := by
    rw [Gateway.merged, StopTime.addedRows_eq]
  have inListed {call : TripUpdate × StopTimeUpdate} (member : call ∈ s.addedCalls stop.stopId) :
      row call ∈ listed :=
    List.mem_append_right _ (List.mem_map_of_mem member)
  refine ⟨_, mergeStopTimes_eq g s stop z rows date, ?_, ?_⟩
  · rw [merges]
    exact StopTime.sorted_perm z listed
  · rw [merges, StopTime.not_pair_sublist_sorted_iff (inListed calls) (inListed calls')]
    cases known : date.bind z.serviceMidnight? with
    | some midnight => exact StopTime.sortKey_lt_or_eq_iff known leaves leaves' before _
    | none => rw [StopTime.sortKey_of_clock known, StopTime.sortKey_of_clock known]

/-- A feed with a trip outside the schedule. -/
def extraTrip (calls : List StopTimeUpdate) : TripUpdate where
  trip := { tripId := some "X", scheduleRelationship := some 1 }
  stopTimeUpdates := calls

def extraSnapshot (calls : List StopTimeUpdate) : Snapshot where
  feeds := [{ feed := "BA", tripUpdates := some { trips := [("X", extraTrip calls)] } }]

/-- A call of the trip at the stop `S`. -/
def extraCall (sequence : Nat) (arrival departure : Option TimeEvent) : StopTimeUpdate where
  stopSequence := some sequence
  stopId := some "S"
  arrival
  departure

/-- A row of the call. -/
def extraRow (calls : List StopTimeUpdate) (date : Date) (call : StopTimeUpdate) : StopTime :=
  StopTime.ofAdded Stop.nightStop (some date) (extraTrip calls) call

/-- A call at half past ten on 30 May 2018. -/
def earlyCall : StopTimeUpdate := extraCall 1 none (some { time := some 1527676200 })

/-- A call at half past eleven. -/
def lateCall : StopTimeUpdate := extraCall 5 none (some { time := some 1527679800 })

/-- A call at half past ten, with the time of its arrival and the delay of its departure. -/
def delayedCall : StopTimeUpdate :=
  extraCall 1 (some { time := some 1527676200 }) (some { delay := some 60 })

theorem added_in_order_iff_of_lateCall :
    let calls := [lateCall, earlyCall]
    ∃ merged, ((mergeStopTimes (extraSnapshot calls) Stop.nightStop ⟨"UTC", 0, []⟩ []
        (some ⟨17681⟩)).run (Stop.nightGateway [] [])).1 = .ok merged ∧
      merged.Perm [extraRow calls ⟨17681⟩ lateCall, extraRow calls ⟨17681⟩ earlyCall] ∧
      ¬ [extraRow calls ⟨17681⟩ lateCall, extraRow calls ⟨17681⟩ earlyCall].Sublist merged := by
  intro calls
  have early : (extraTrip calls, earlyCall) ∈ (extraSnapshot calls).addedCalls "S" := by decide
  have late : (extraTrip calls, lateCall) ∈ (extraSnapshot calls).addedCalls "S" := by decide
  obtain ⟨merged, ran, listed, inOrder⟩ := added_in_order_iff (Stop.nightGateway [] [])
    (extraSnapshot calls) Stop.nightStop ⟨"UTC", 0, []⟩ [] (some ⟨17681⟩) early late rfl rfl
    (by decide)
  exact ⟨merged, ran, listed, inOrder.mpr (.inl ⟨1527676200, rfl, by decide, by decide, by decide⟩)⟩

/-- The row for half past eleven stands before that for half past ten if the departure of the latter
has no time of its own, and if it is listed first and the date of both is the next. -/
theorem added_out_of_order :
    let outOfOrder (calls : List StopTimeUpdate) (date : Date) (early late : StopTimeUpdate) :=
      early.dueTime? = some 1527676200 ∧ late.dueTime? = some 1527679800 ∧
      ∃ merged, ((mergeStopTimes (extraSnapshot calls) Stop.nightStop ⟨"UTC", 0, []⟩ []
          (some date)).run (Stop.nightGateway [] [])).1 = .ok merged ∧
        [extraRow calls date late, extraRow calls date early].Sublist merged
    outOfOrder [delayedCall, lateCall] ⟨17681⟩ delayedCall lateCall ∧
      outOfOrder [lateCall, earlyCall] ⟨17682⟩ earlyCall lateCall := by
  refine ⟨⟨rfl, rfl, _, mergeStopTimes_eq _ _ _ _ _ _, ?_⟩,
    ⟨rfl, rfl, _, mergeStopTimes_eq _ _ _ _ _ _, ?_⟩⟩
  · exact (StopTime.pair_sublist_sorted_iff (by decide) (by decide)).mpr (.inl (by decide))
  · exact (StopTime.pair_sublist_sorted_iff (by decide) (by decide)).mpr
      (.inr ⟨by decide, by decide⟩)

end Task

end Transit
