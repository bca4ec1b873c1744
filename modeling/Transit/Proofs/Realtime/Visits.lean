import Transit.Proofs.Field.Shown
import Transit.Proofs.Realtime.ScheduleOrder
set_option autoImplicit false

/-!
# The entries of an update and the calls of its trip

An entry belongs to a call by its stop sequence, or else because it is the only one that is listed
for the stop (`visitIndex?_eq_some_iff`). The second of these counts the entries of the update and
not the calls of the trip. So an entry can belong to two calls, but only if one of them takes it by
the stop (`entry_shared_by_stop`), as for a trip that comes back to a stop and an update that lists
the stop once (`loop_shares_entry`).
-/

namespace Transit

open Realtime

/-- The first element with a property, if no other has it. -/
theorem findIdx?_single_iff {α : Type} (p : α → Bool) (xs : List α) (i : Nat) :
    (xs.filter p).length = 1 ∧ xs.findIdx? p = some i ↔
      ∃ x, xs[i]? = some x ∧ p x = true ∧ ∀ j y, xs[j]? = some y → p y = true → j = i := by
  induction xs generalizing i with
  | nil => simp
  | cons x xs ih =>
    cases holds : p x with
    | true =>
      rw [List.filter_cons_of_pos holds, List.findIdx?_cons, if_pos holds, List.length_cons]
      constructor
      · rintro ⟨single, first⟩
        obtain rfl := Option.some.inj first
        refine ⟨x, rfl, holds, ?_⟩
        intro j y found py
        cases j with
        | zero => rfl
        | succ k =>
          have others : xs.filter p = [] := List.eq_nil_of_length_eq_zero (by omega)
          exact absurd py (List.filter_eq_nil_iff.mp others y (List.mem_of_getElem? found))
      · rintro ⟨_, _, _, only⟩
        obtain rfl := only 0 x rfl holds
        have others : xs.filter p = [] := by
          refine List.filter_eq_nil_iff.mpr fun y member py => ?_
          obtain ⟨k, found⟩ := List.mem_iff_getElem?.mp member
          exact absurd (only (k + 1) y found py) (Nat.succ_ne_zero k)
        rw [others]
        exact ⟨rfl, rfl⟩
    | false =>
      rw [List.filter_cons_of_neg (by simp [holds]), List.findIdx?_cons, if_neg (by simp [holds])]
      cases i with
      | zero => simp [holds]
      | succ k =>
        have later : xs.findIdx? p = some k ↔
            (xs.findIdx? p).map (fun i => i + 1) = some (k + 1) := by
          simp [Option.map_eq_some_iff]
        rw [← later, ih]
        refine exists_congr fun y => and_congr_right fun _ => and_congr_right fun _ => ?_
        constructor
        · intro only j other found py
          cases j with
          | zero =>
            obtain rfl := Option.some.inj found
            rw [holds] at py
            cases py
          | succ j => exact congrArg (· + 1) (only j other found py)
        · intro only j other found py
          exact Nat.succ.inj (only (j + 1) other found py)

namespace Realtime

/-- An entry has a stop sequence. -/
def StopTimeUpdate.Carries (u : StopTimeUpdate) (sequence : Int) : Prop :=
  u.stopSequence.map (fun n => (n : Int)) = some sequence

theorem StopTimeUpdate.carries_iff {u : StopTimeUpdate} {sequence : Int} :
    (u.stopSequence.any fun n => (n : Int) == sequence) = true ↔ u.Carries sequence := by
  unfold Carries
  cases u.stopSequence <;> simp

namespace TripUpdate

variable {t : TripUpdate} {sequence other : Int} {stopId otherId : Option String} {i : Nat}

/-- The entry is the first with the stop sequence. -/
structure Numbered (t : TripUpdate) (sequence : Int) (i : Nat) : Prop where
  carries : ∃ u, t.stopTimeUpdates[i]? = some u ∧ u.Carries sequence
  first : ∀ j < i, ∀ u, t.stopTimeUpdates[j]? = some u → ¬ u.Carries sequence

/-- No entry has the stop sequence, and the entry is the only one that is listed for the stop. -/
structure Named (t : TripUpdate) (sequence : Int) (stopId : Option String) (i : Nat) : Prop where
  unnumbered : ∀ u ∈ t.stopTimeUpdates, ¬ u.Carries sequence
  known : stopId.isSome = true
  listed : ∃ u, t.stopTimeUpdates[i]? = some u ∧ u.stopId = stopId
  only : ∀ j u, t.stopTimeUpdates[j]? = some u → u.stopId = stopId → j = i

/-- The position of the first entry with a stop sequence. -/
def sequenceIndex? (t : TripUpdate) (sequence : Int) : Option Nat :=
  t.stopTimeUpdates.findIdx? fun u => u.stopSequence.any fun n => (n : Int) == sequence

theorem sequenceIndex?_eq_some_iff :
    t.sequenceIndex? sequence = some i ↔ t.Numbered sequence i := by
  rw [sequenceIndex?, List.findIdx?_eq_some_iff_getElem]
  constructor
  · rintro ⟨inside, carries, first⟩
    refine ⟨⟨_, List.getElem?_eq_getElem inside, StopTimeUpdate.carries_iff.mp carries⟩, ?_⟩
    intro j before u found
    obtain ⟨_, rfl⟩ := List.getElem?_eq_some_iff.mp found
    exact fun early => first j before (StopTimeUpdate.carries_iff.mpr early)
  · rintro ⟨⟨u, found, carries⟩, first⟩
    obtain ⟨inside, rfl⟩ := List.getElem?_eq_some_iff.mp found
    refine ⟨inside, StopTimeUpdate.carries_iff.mpr carries, ?_⟩
    intro j before early
    exact first j before _ (List.getElem?_eq_getElem _) (StopTimeUpdate.carries_iff.mp early)

theorem sequenceIndex?_eq_none_iff :
    t.sequenceIndex? sequence = none ↔ ∀ u ∈ t.stopTimeUpdates, ¬ u.Carries sequence := by
  rw [sequenceIndex?, List.findIdx?_eq_none_iff]
  refine forall₂_congr fun u _ => ?_
  rw [← StopTimeUpdate.carries_iff, Bool.not_eq_true]

theorem visitIndex?_eq (t : TripUpdate) (sequence : Int) (stopId : Option String) :
    t.visitIndex? sequence stopId = (t.sequenceIndex? sequence).or (stopId.bind fun id =>
      if (t.stopTimeUpdates.filter (·.stopId == some id)).length == 1 then
        t.stopTimeUpdates.findIdx? (·.stopId == some id)
      else none) :=
  rfl

/-- Without an entry for its stop sequence, a call takes the only entry for its stop. -/
theorem visitIndex?_of_unnumbered (none : t.sequenceIndex? sequence = none) :
    t.visitIndex? sequence stopId = some i ↔ t.Named sequence stopId i := by
  have unnumbered := sequenceIndex?_eq_none_iff.mp none
  rw [visitIndex?_eq, none, Option.none_or]
  cases stopId with
  | none =>
    rw [Option.bind_none]
    refine ⟨fun found => ?_, fun named => ?_⟩
    · cases found
    · cases named.known
  | some id =>
    have single := findIdx?_single_iff (fun u : StopTimeUpdate => u.stopId == some id)
      t.stopTimeUpdates i
    rw [Option.bind_some, Option.ite_none_right_eq_some, beq_iff_eq, single]
    constructor
    · rintro ⟨u, found, listed, only⟩
      refine ⟨unnumbered, rfl, ⟨u, found, eq_of_beq listed⟩, ?_⟩
      exact fun j v at_j named => only j v at_j (beq_iff_eq.mpr named)
    · rintro ⟨_, _, ⟨u, found, listed⟩, only⟩
      exact ⟨u, found, beq_iff_eq.mpr listed, fun j v at_j named => only j v at_j (eq_of_beq named)⟩

/-- An entry belongs to a call as the first with its stop sequence, or as the only one for its stop
where no entry has the sequence. -/
theorem visitIndex?_eq_some_iff :
    t.visitIndex? sequence stopId = some i ↔
      t.Numbered sequence i ∨ t.Named sequence stopId i := by
  cases numbered : t.sequenceIndex? sequence with
  | none =>
    have unnumbered := sequenceIndex?_eq_none_iff.mp numbered
    rw [visitIndex?_of_unnumbered numbered]
    refine (or_iff_right ?_).symm
    rintro ⟨⟨u, found, carries⟩, _⟩
    exact unnumbered u (List.mem_of_getElem? found) carries
  | some k =>
    have bySequence : t.visitIndex? sequence stopId = some k := by
      rw [visitIndex?_eq, numbered, Option.some_or]
    rw [bySequence, ← numbered, sequenceIndex?_eq_some_iff]
    refine (or_iff_left ?_).symm
    intro named
    obtain ⟨⟨u, found, carries⟩, _⟩ := sequenceIndex?_eq_some_iff.mp numbered
    exact named.unnumbered u (List.mem_of_getElem? found) carries

theorem Numbered.carries_of (numbered : t.Numbered sequence i) {u : StopTimeUpdate}
    (found : t.stopTimeUpdates[i]? = some u) : u.Carries sequence := by
  obtain ⟨v, here, carries⟩ := numbered.carries
  obtain rfl := Option.some.inj (here.symm.trans found)
  exact carries

/-- One entry has at most one stop sequence. -/
theorem Numbered.unique (here : t.Numbered sequence i) (there : t.Numbered other i) :
    sequence = other := by
  obtain ⟨u, found, carries⟩ := here.carries
  exact Option.some.inj (carries.symm.trans (there.carries_of found))

/-- An entry belongs to two calls if one takes it by the stop, and the other either way. -/
theorem both_visitIndex?_iff (different : sequence ≠ other) :
    (t.visitIndex? sequence stopId = some i ∧ t.visitIndex? other otherId = some i) ↔
      (t.Numbered sequence i ∧ t.Named other otherId i) ∨
      (t.Named sequence stopId i ∧ t.Numbered other i) ∨
      (t.Named sequence stopId i ∧ t.Named other otherId i) := by
  rw [visitIndex?_eq_some_iff, visitIndex?_eq_some_iff]
  constructor
  · rintro ⟨numbered | named, numberedToo | namedToo⟩
    · exact absurd (numbered.unique numberedToo) different
    · exact .inl ⟨numbered, namedToo⟩
    · exact .inr (.inl ⟨named, numberedToo⟩)
    · exact .inr (.inr ⟨named, namedToo⟩)
  · rintro (⟨numbered, named⟩ | ⟨named, numbered⟩ | ⟨named, namedToo⟩)
    · exact ⟨.inl numbered, .inr named⟩
    · exact ⟨.inr named, .inl numbered⟩
    · exact ⟨.inr named, .inr namedToo⟩

/-- The entry that a call is given. -/
theorem entry_of_visit? {v : VisitUpdate} {u : StopTimeUpdate}
    (visit : t.visit? sequence stopId = some v) (carries : v.update = some u) :
    ∃ i, t.visitIndex? sequence stopId = some i ∧ t.stopTimeUpdates[i]? = some u := by
  unfold visit? at visit
  cases found : t.visitIndex? sequence stopId with
  | some i =>
    rw [found] at visit
    obtain rfl := Option.some.inj visit
    exact ⟨i, rfl, carries⟩
  | none =>
    rw [found] at visit
    obtain ⟨delay, _, rfl⟩ := Option.map_eq_some_iff.mp visit
    cases carries

end TripUpdate

/-- The entry that a call is given comes from one feed's update of the trip. -/
theorem Snapshot.entry_of_visit? {s : Snapshot} {tripId : String} {sequence : Int}
    {stopId : Option String} {v : VisitUpdate} {u : StopTimeUpdate}
    (visit : s.visit? tripId sequence stopId = some v) (carries : v.update = some u) :
    ∃ source ∈ s.tripSources, ∃ t, source.trip? tripId = some t ∧
      ∃ i, t.visitIndex? sequence stopId = some i ∧ t.stopTimeUpdates[i]? = some u := by
  unfold visit? at visit
  generalize found : (s.tripSources.filterMap fun source => do
    (← source.trip? tripId).visit? sequence stopId) = candidates at visit
  have inFound : v ∈ candidates := by
    rcases Option.or_eq_some_iff.mp visit with first | ⟨_, first⟩
    · exact List.mem_of_find?_eq_some first
    · exact List.mem_of_mem_head? first
  rw [← found] at inFound
  obtain ⟨source, inSources, visits⟩ := List.mem_filterMap.mp inFound
  obtain ⟨t, known, visits⟩ := Option.bind_eq_some_iff.mp visits
  exact ⟨source, inSources, t, known, TripUpdate.entry_of_visit? visits carries⟩

end Realtime

namespace Task

variable {g : Gateway}

/-- The GTFS ids that rows get do not depend on what has been looked up before. -/
theorem tripIdsOf_eq (g : Gateway) (rows : List StopTime) :
    ((tripIdsOf rows).run g).1 = .ok (rows.map fun r => (r, g.rowTripId? r)) := by
  induction rows generalizing g with
  | nil => rfl
  | cons row rest ih =>
    rw [tripIdsOf, List.map_cons, Gateway.rowTripId?]
    split
    · rw [run_bind, ih]
      rfl
    · rw [run_bind, run_remember]
      dsimp only
      rw [IdCache.answer_tripId]
      dsimp only
      rw [run_bind, ih]
      have kept := (IdCache.remembers_tripId row.tripId).keeps g.warehouse g.ids
      have same (r : StopTime) : Gateway.rowTripId? { g with
          ids := (IdCache.tripId row.tripId g.warehouse g.ids).cache
          calls := (IdCache.tripId row.tripId g.warehouse g.ids).calls.reverse ++ g.calls } r =
            g.rowTripId? r := by
        rw [Gateway.rowTripId?, Gateway.rowTripId?, kept.tripId]
      simp only [same]
      rfl

/-- A merge gives scheduled rows the updates of their calls. -/
theorem mergeStopTimes_eq (g : Gateway) (s : Snapshot) (stop : Stop) (z : Zone)
    (rows : List StopTime) (addedDate : Option Date) :
    ((mergeStopTimes s stop z rows addedDate).run g).1 = .ok (g.merged s stop z rows addedDate) := by
  unfold mergeStopTimes Gateway.merged Gateway.overlay
  cases empty : s.isEmpty with
  | true =>
    rw [StopTime.addedRows_of_isEmpty empty, List.append_nil]
    simp only [if_true, List.map_id']
    rfl
  | false =>
    simp only [Bool.false_eq_true, if_false]
    rw [run_bind, tripIdsOf_eq]
    dsimp only
    rw [StopTime.merge, List.map_map]
    rfl

/-- The entry that a scheduled row of a merge carries is the one that its call is given. -/
theorem visit_of_merged {s : Snapshot} {stop : Stop} {z : Zone} {rows merged : List StopTime}
    {addedDate : Option Date} (plain : ∀ row ∈ rows, row.update = none)
    (ran : ((mergeStopTimes s stop z rows addedDate).run g).1 = .ok merged) {r : StopTime}
    (member : r ∈ merged) (scheduled : r.isScheduled = true) {v : VisitUpdate}
    (carries : r.update = some v) :
    ∃ id, g.rowTripId? r = some id ∧ s.visit? id r.stopSequence (some stop.stopId) = some v := by
  obtain rfl := Except.ok.inj (ran.symm.trans (mergeStopTimes_eq g s stop z rows addedDate))
  rw [Gateway.merged, StopTime.mem_sorted, List.mem_append] at member
  rcases member with overlaid | added
  · obtain ⟨row, inRows, rfl⟩ := List.mem_map.mp overlaid
    have none := plain row inRows
    unfold Gateway.overlay at carries ⊢
    split at carries
    · rw [none] at carries
      cases carries
    · rename_i some
      rw [if_neg some]
      cases known : g.rowTripId? row with
      | none =>
        rw [known, StopTime.attach, none] at carries
        cases carries
      | some id =>
        rw [known] at carries
        exact ⟨id, known, carries⟩
  · rw [StopTime.isScheduled_of_mem_addedRows added] at scheduled
    cases scheduled

/-- Two calls of a trip with different stop sequences get the same entry of an update if and only if
one of them takes it by its stop, where no entry has the sequence of that call, and the other takes
it by its sequence or by its stop as well. So if two rows of a merge that are calls of one trip
carry the same entry, then some feed's update of the trip lists the stop once only, and the sequence
of one of the rows not at all. -/
theorem entry_shared_by_stop (t : TripUpdate) (sequence other : Int) (stopId otherId : Option String)
    (different : sequence ≠ other) :
    (∀ i, (t.visitIndex? sequence stopId = some i ∧ t.visitIndex? other otherId = some i) ↔
      (t.Numbered sequence i ∧ t.Named other otherId i) ∨
      (t.Named sequence stopId i ∧ t.Numbered other i) ∨
      (t.Named sequence stopId i ∧ t.Named other otherId i)) ∧
    ∀ (g : Gateway) (s : Snapshot) (stop : Stop) (z : Zone) (rows merged : List StopTime)
      (addedDate : Option Date), (∀ row ∈ rows, row.update = none) →
      ((mergeStopTimes s stop z rows addedDate).run g).1 = .ok merged →
      ∀ r ∈ merged, ∀ r' ∈ merged, r.isScheduled = true → r'.tripId = r.tripId →
      r.stopSequence = sequence → r'.stopSequence = other → ∀ u : StopTimeUpdate,
      r.update.bind (·.update) = some u → r'.update.bind (·.update) = some u →
      ∃ id, g.rowTripId? r = some id ∧
        ∃ source ∈ s.tripSources, ∃ t, source.trip? id = some t ∧
          ∃ i, t.stopTimeUpdates[i]? = some u ∧
            (t.Named sequence (some stop.stopId) i ∨ t.Named other (some stop.stopId) i) := by
  refine ⟨fun _ => TripUpdate.both_visitIndex?_iff different, ?_⟩
  rintro g s stop z rows merged addedDate plain ran r inMerged r' inMerged' scheduled same rfl rfl u
    carries carries'
  have scheduled' : r'.isScheduled = true := by
    rw [StopTime.isScheduled, same]
    exact scheduled
  have sameTrip : g.rowTripId? r' = g.rowTripId? r := by
    rw [Gateway.rowTripId?, Gateway.rowTripId?, same]
  obtain ⟨v, attached, update⟩ := Option.bind_eq_some_iff.mp carries
  obtain ⟨v', attached', update'⟩ := Option.bind_eq_some_iff.mp carries'
  obtain ⟨id, known, visit⟩ := visit_of_merged plain ran inMerged scheduled attached
  obtain ⟨id', known', visit'⟩ := visit_of_merged plain ran inMerged' scheduled' attached'
  obtain rfl := Option.some.inj (known'.symm.trans (sameTrip.trans known))
  obtain ⟨source, inSources, t, found, i, taken, entry⟩ := Snapshot.entry_of_visit? visit update
  obtain ⟨source', inSources', t', found', i', taken', entry'⟩ :=
    Snapshot.entry_of_visit? visit' update'
  refine ⟨id', known, ?_⟩
  rcases TripUpdate.visitIndex?_eq_some_iff.mp taken with numbered | named
  · rcases TripUpdate.visitIndex?_eq_some_iff.mp taken' with numbered' | named'
    · -- The entry would have both sequences.
      have carriesR := numbered.carries_of entry
      have carriesR' := numbered'.carries_of entry'
      exact absurd (Option.some.inj (carriesR.symm.trans carriesR')) different
    · exact ⟨source', inSources', t', found', i', entry', .inr named'⟩
  · exact ⟨source, inSources, t, found, i, entry, .inl named⟩

/-- An update for a trip that calls at the stop `S` first and fifth, with an entry for the first
call. -/
def loopUpdate : TripUpdate where
  trip := { tripId := some "T" }
  stopTimeUpdates := [{
    stopSequence := some 1, stopId := some "S", departure := some { delay := some 60 } }]

def loopSnapshot : Snapshot where
  feeds := [{ feed := "BA", tripUpdates := some { trips := [("T", loopUpdate)] } }]

/-- A call of the trip on 30 May 2018. -/
def loopCall (sequence : Int) (seconds : Nat) : StopTime :=
  { (Stop.leaving seconds).stamp ⟨17681⟩ with stopSequence := sequence }

/-- A call of the trip with the entry. -/
def loopVisit (sequence : Int) (seconds : Nat) : StopTime :=
  { loopCall sequence seconds with update := some ⟨loopUpdate.stopTimeUpdates.head?, none⟩ }

theorem merge_loop :
    ((mergeStopTimes loopSnapshot Stop.nightStop ⟨"UTC", 0, []⟩ [loopCall 1 36000, loopCall 5 39600]
      none).run (Stop.nightGateway [] [])).1 = .ok [loopVisit 1 36000, loopVisit 5 39600] := by
  have ran : ((mergeStopTimes loopSnapshot Stop.nightStop ⟨"UTC", 0, []⟩
      [loopCall 1 36000, loopCall 5 39600] none).run (Stop.nightGateway [] [])).1 =
        .ok (StopTime.sorted ⟨"UTC", 0, []⟩ [loopVisit 1 36000, loopVisit 5 39600]) := rfl
  rw [ran, StopTime.sorted_eq]
  exact congrArg Except.ok (List.mergeSort_of_pairwise (by decide))

/-- The fifth call takes the entry of the first by the stop. -/
theorem entry_shared_by_stop_of_loop :
    (loopUpdate.Numbered 1 0 ∧ loopUpdate.Named 5 (some "S") 0) ∧
    ∃ merged, ((mergeStopTimes loopSnapshot Stop.nightStop ⟨"UTC", 0, []⟩
        [loopCall 1 36000, loopCall 5 39600] none).run (Stop.nightGateway [] [])).1 = .ok merged ∧
      ∃ r ∈ merged, ∃ r' ∈ merged, r.stopSequence ≠ r'.stopSequence ∧
        ∃ (t : TripUpdate) (i : Nat),
          t.Named r.stopSequence (some "S") i ∨ t.Named r'.stopSequence (some "S") i := by
  have unnamed : ¬ loopUpdate.Named 1 (some "S") 0 := by
    intro named
    exact named.unnumbered _ List.mem_cons_self rfl
  obtain ⟨taken, merges⟩ := entry_shared_by_stop loopUpdate 1 5 (some "S") (some "S") (by decide)
  constructor
  · rcases (taken 0).mp ⟨by decide, by decide⟩ with both | ⟨named, _⟩ | ⟨named, _⟩
    · exact both
    · exact absurd named unnamed
    · exact absurd named unnamed
  · obtain ⟨_, _, _, _, t, _, i, _, named⟩ := merges (Stop.nightGateway [] []) loopSnapshot
      Stop.nightStop ⟨"UTC", 0, []⟩ [loopCall 1 36000, loopCall 5 39600]
      [loopVisit 1 36000, loopVisit 5 39600] none (by decide) merge_loop (loopVisit 1 36000)
      (by decide) (loopVisit 5 39600) (by decide) rfl rfl rfl rfl _ rfl rfl
    exact ⟨_, merge_loop, loopVisit 1 36000, by decide, loopVisit 5 39600, by decide, by decide, t, i,
      named⟩

/-- One entry is given to the first and to the fifth call of a trip, and both rows of the trip at
the stop carry it. -/
theorem loop_shares_entry :
    loopUpdate.visitIndex? 1 (some "S") = some 0 ∧ loopUpdate.visitIndex? 5 (some "S") = some 0 ∧
    ∃ merged u, ((mergeStopTimes loopSnapshot Stop.nightStop ⟨"UTC", 0, []⟩
        [loopCall 1 36000, loopCall 5 39600] none).run (Stop.nightGateway [] [])).1 = .ok merged ∧
      merged.map (fun r => (r.tripId, r.stopSequence, r.update.bind (·.update))) =
        [(5, 1, some u), (5, 5, some u)] :=
  ⟨by decide, by decide, _, _, merge_loop, rfl⟩

end Task

end Transit
