import Transit.Field.Stop
import Transit.Proofs.Gateway.Running
import Transit.Proofs.Service.Days
set_option autoImplicit false

/-!
# The scheduled rows of a stop

The rows of some service days come through the loader of stop times. Each comes from the query of
one of the days (`scheduled_sound`), and a request that goes on gets the rows of all of them
(`scheduled_complete`).
-/

namespace Transit

theorem separate_stopTimesByStop :
    Gateway.Separate (.many .stopTimesByStop) Warehouse.stopTimesOf :=
  Warehouse.stopTimesByStop_eq

theorem LoadError.ofEntry_eq_ok {ν : Type} {entry : Except LookupError ν} {value : ν} :
    LoadError.ofEntry entry = .ok value ↔ entry = .ok value := by
  cases entry with
  | error e => simp [LoadError.ofEntry, Except.mapError]
  | ok found => simp [LoadError.ofEntry, Except.mapError]

namespace Stop

theorem stampDays_cons (day : StopTimeFilter) (found : List StopTime)
    (rest : List (StopTimeFilter × Except LoadError (List StopTime))) :
    stampDays ((day, .ok found) :: rest) =
      (stampDays rest).map (found.map (·.onDay day) ++ ·) := by
  rw [stampDays]
  cases known : day.serviceDate with
  | none =>
    have kept : found.map (·.onDay day) = found := by simp [StopTime.onDay, known]
    rw [kept]
    cases stampDays rest <;> rfl
  | some d =>
    have stamped : found.map (·.onDay day) = found.map (·.stamp d) := by
      simp [StopTime.onDay, known]
    rw [stamped]
    cases stampDays rest <;> rfl

/-- Rows that are returned come from one of the days. -/
theorem mem_of_stampDays {days : List (StopTimeFilter × Except LoadError (List StopTime))}
    {rows : List StopTime} (stamped : stampDays days = .ok rows) {r : StopTime}
    (member : r ∈ rows) :
    ∃ day found row, (day, .ok found) ∈ days ∧ row ∈ found ∧ r = row.onDay day := by
  induction days generalizing rows with
  | nil =>
    obtain rfl := Except.ok.inj stamped
    contradiction
  | cons first rest ih =>
    obtain ⟨day, loaded⟩ := first
    cases loaded with
    | error e => cases stamped
    | ok found =>
      rw [stampDays_cons] at stamped
      cases others : stampDays rest with
      | error e =>
        rw [others] at stamped
        cases stamped
      | ok more =>
        rw [others] at stamped
        obtain rfl := Except.ok.inj stamped
        rcases List.mem_append.mp member with here | there
        · obtain ⟨row, inFound, rfl⟩ := List.mem_map.mp here
          exact ⟨day, found, row, List.mem_cons_self, inFound, rfl⟩
        · obtain ⟨other, rows, row, inRest, inRows, same⟩ := ih others there
          exact ⟨other, rows, row, List.mem_cons_of_mem _ inRest, inRows, same⟩

theorem stampDays_of_ok (days : List StopTimeFilter)
    (found : StopTimeFilter → List StopTime) :
    stampDays (days.map fun day => (day, .ok (found day))) =
      .ok (days.flatMap fun day => (found day).map (·.onDay day)) := by
  induction days with
  | nil => rfl
  | cons day rest ih =>
    rw [List.map_cons, stampDays_cons, ih]
    rfl

variable {g last : Gateway} {s : Stop} {limit : Option Int} {days : List StopTimeFilter}

theorem scheduled_run (s : Stop) (limit : Option Int) (days : List StopTimeFilter) (g : Gateway) :
    (s.scheduled limit days).run.run g =
      (stampDays (days.zip (g.loadAll (.many .stopTimesByStop) (s.dayKeys limit days)).1),
        (g.loadAll (.many .stopTimesByStop) (s.dayKeys limit days)).2) := rfl

/-- A scheduled row is what some warehouse holds for one of the days. -/
theorem scheduled_sound {origin : Warehouse → Prop} {rows : List StopTime}
    (fed : g.FedBy (.many .stopTimesByStop) origin) (here : origin g.warehouse)
    (ran : (s.scheduled limit days).run.run g = (.ok rows, last)) {r : StopTime}
    (member : r ∈ rows) :
    ∃ day ∈ days, ∃ w row, origin w ∧ row ∈ w.rowsAt (s.feedVersionId, s.id) (some day) ∧
      r = row.onDay day := by
  rw [scheduled_run, Prod.mk.injEq] at ran
  obtain ⟨day, found, row, inDays, inFound, same⟩ := mem_of_stampDays ran.1 member
  rcases Gateway.loadAll_sound fed here fun key (_ : key ∈ s.dayKeys limit days) =>
    separate_stopTimesByStop.apart key with nothing | each
  · rw [nothing, List.zip_nil_right] at inDays
    contradiction
  · rw [dayKeys, List.forall₂_map_left_iff] at each
    have either := List.forall₂_iff_zip.mp each |>.2 inDays
    rcases either with cancelled | ⟨w, isOrigin, got⟩
    · cases cancelled
    · have fetched := LoadError.ofEntry_eq_ok.mp got.symm
      obtain rfl := Except.ok.inj fetched
      exact ⟨day, (List.of_mem_zip inDays).1, w, row, isOrigin, List.mem_of_mem_take inFound, same⟩

/-- A request that goes on gets the rows of all days, each day's up to the limit. -/
theorem scheduled_complete (ready : g.Ready (.many .stopTimesByStop)) :
    ((s.scheduled limit days).run.run g).1 = .ok (days.flatMap fun day =>
      ((g.warehouse.rowsAt (s.feedVersionId, s.id) (some day)).take (groupLimit limit)).map
        (·.onDay day)) := by
  rw [scheduled_run, Gateway.loadAll_complete ready fun key _ => separate_stopTimesByStop.apart key,
    dayKeys,
    List.map_map, ← List.map_prod_left_eq_zip]
  exact stampDays_of_ok days _

end Stop

end Transit
