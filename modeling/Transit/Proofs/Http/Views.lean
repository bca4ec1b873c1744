import Transit.Http.View
import Transit.Proofs.Field.Shown
import Transit.Proofs.Gateway.FieldRows
set_option autoImplicit false

/-!
# The views of rows

As long as a request goes on, the view of a row depends on that row alone (`RowView.viewOf`). But
rows are viewed together: the views are those of all rows, or the error of the first that has none
(`ofRows_ends`).
-/

namespace Transit

namespace Gateway

/-- A trip outside the schedule, as a trip of the route that its update names. -/
def addedTrip (g : Gateway) (version : Int) (id : String) : Except LookupError Trip :=
  match g.snapshotOf version with
  | .error e => .error e
  | .ok snapshot =>
    match snapshot.trip? id with
    | none => .error (.notFound "trip" id)
    | some update =>
      match IdCache.routeId? g.warehouse g.ids version (update.trip.routeId.getD "") with
      | none => .error (.notFound "trip" id)
      | some routeId => .ok {
          id := StopTime.addedTripId
          feedVersionId := version
          tripId := id
          routeId
          directionId := Number.Range.int32.wrap (update.trip.directionId.getD 0) }

end Gateway

namespace Task

theorem ends_addedTrip (g : Gateway) (version : Int) (id : String) :
    (Task.addedTrip version id).Ends g (g.addedTrip version id) := by
  refine (ends_snapshot g version).bind ?_
  unfold Gateway.addedTrip
  cases g.snapshotOf version with
  | error e => exact ends_pure _ g
  | ok snapshot =>
    dsimp only
    cases snapshot.trip? id with
    | none => exact ends_pure _ g
    | some update =>
      refine (ends_routeId g version _).bind ?_
      dsimp only
      cases IdCache.routeId? g.warehouse g.ids version (update.trip.routeId.getD "") with
      | none => exact ends_pure _ g
      | some routeId => exact ends_pure _ g

theorem ends_inSnapshot {α : Type} (g : Gateway) (version : Int) (view : Realtime.Snapshot → α) :
    (inSnapshot version view).Ends g ((g.snapshotOf version).map view) :=
  (ends_snapshot g version).bind (ends_pure _ g)

end Task

namespace Resolve

theorem ends_row (g : Gateway) (r : Reference) (id : Int) (field : String) :
    (Resolve.row r id field).Ends g (.ok (r.find? g.warehouse id)) :=
  Task.ends_load (separate_reference r) (Task.ends_pure _ g)

end Resolve

namespace StopTime

variable {g : Gateway} {r : StopTime}

def zoneIn (g : Gateway) (r : StopTime) : Except FieldError Zone :=
  (IdCache.stopZone? g.warehouse g.ids r.stopId "").elim (.error .timezoneUnavailable) .ok

/-- The relationship of a row to the schedule. -/
def relationshipIn (g : Gateway) (r : StopTime) : Except FieldError (Option ScheduleRelationship) :=
  if r.isAdded then .ok (some .added)
  else if r.update.any (·.isSkipped) then .ok (some .canceled)
  else
    match IdCache.tripId? g.warehouse g.ids r.tripId with
    | none => .ok (some .scheduled)
    | some id => do
      let update ← ((g.snapshotOf r.feedVersionId).map (·.trip? id)).mapError
        (.ofLookup "schedule_relationship")
      return Realtime.TripUpdate.relationship? update

/-- What an update says about a call of a row. -/
def eventIn (g : Gateway) (r : StopTime) (scheduled : Option WideTime)
    (pick : Realtime.StopTimeUpdate → Option Realtime.TimeEvent) :
    Except FieldError StopTimeEvent := do
  let z ← r.zoneIn g
  return .build z r.serviceDate scheduled ((r.update.bind (·.update)).bind pick)
    (r.update.bind (·.lastDelay))

theorem ends_event (g : Gateway) (r : StopTime) (scheduled : Option WideTime)
    (pick : Realtime.StopTimeUpdate → Option Realtime.TimeEvent) :
    (r.event scheduled pick).Ends g (r.eventIn g scheduled pick) := by
  have zones := Resolve.ends_on "stop_timezone" (Task.ends_stopZone g r.stopId "")
  have zone : r.zone.Ends g (r.zoneIn g) := by
    refine Resolve.Ends.bind_ok zones ?_
    unfold zoneIn
    cases IdCache.stopZone? g.warehouse g.ids r.stopId "" <;> exact Task.ends_pure _ g
  exact zone.bind fun _ _ => Task.ends_pure _ g

theorem ends_relationship (g : Gateway) (r : StopTime) :
    r.scheduleRelationship.Ends g (r.relationshipIn g) := by
  unfold scheduleRelationship relationshipIn
  split
  · exact Task.ends_pure _ g
  · split
    · exact Task.ends_pure _ g
    · refine Resolve.Ends.bind_ok (Resolve.ends_on "schedule_relationship"
        (Task.ends_tripId g r.tripId)) ?_
      cases IdCache.tripId? g.warehouse g.ids r.tripId with
      | none => exact Task.ends_pure _ g
      | some id =>
        have found := Resolve.ends_on "schedule_relationship"
          (Task.ends_inSnapshot g r.feedVersionId (·.trip? id))
        exact found.bind fun _ _ => Task.ends_pure _ g

end StopTime

namespace Http.RowView

/-- All of a view but a scheduled trip. -/
def draftIn (g : Gateway) (r : StopTime) : Except FieldError Draft := do
  let arrival ← r.eventIn g r.arrivalTime fun u => u.arrival.or u.departure
  let departure ← r.eventIn g r.departureTime fun u => u.departure.or u.arrival
  let relationship ← r.relationshipIn g
  match r.addedTripId? with
  | some id => do
    let trip ← (g.addedTrip r.feedVersionId id).mapError (.ofLookup "trip")
    return ⟨⟨r, some trip.tripId, arrival, departure, relationship⟩, false⟩
  | none => return ⟨⟨r, none, arrival, departure, relationship⟩, true⟩

theorem ends_draft (g : Gateway) (r : StopTime) : (draft r).Ends g (draftIn g r) := by
  refine (StopTime.ends_event g r _ _).bind fun arrival _ => ?_
  refine (StopTime.ends_event g r _ _).bind fun departure _ => ?_
  refine (StopTime.ends_relationship g r).bind fun relationship _ => ?_
  cases r.addedTripId? with
  | none => exact Task.ends_pure _ g
  | some id =>
    have trips := Resolve.ends_on "trip" (Task.ends_addedTrip g r.feedVersionId id)
    exact trips.bind fun _ _ => Task.ends_pure _ g

/-- A draft with its trip. -/
def filled (g : Gateway) (d : Draft) : RowView :=
  if d.waits then
    { d.view with tripId := (g.warehouse.trip? d.view.row.tripId).map (·.tripId) }
  else d.view

def viewOf (g : Gateway) (r : StopTime) : Except FieldError RowView := do
  return filled g (← draftIn g r)

/-- The drafts of rows up to the first that has none. -/
def draftsUntil (g : Gateway) : List StopTime → List Draft × Option (FieldError × List StopTime)
  | [] => ([], none)
  | r :: rest =>
    match draftIn g r with
    | .error e => ([], some (e, rest))
    | .ok d => (d :: (draftsUntil g rest).1, (draftsUntil g rest).2)

theorem views_eq (g : Gateway) (rows : List StopTime) :
    rows.mapM (viewOf g) = match (draftsUntil g rows).2 with
      | none => .ok ((draftsUntil g rows).1.map (filled g))
      | some (e, _) => .error e := by
  induction rows with
  | nil => rfl
  | cons r rest ih =>
    rw [List.mapM_cons, ih, viewOf, draftsUntil]
    cases draftIn g r with
    | error e => rfl
    | ok d =>
      dsimp only
      cases (draftsUntil g rest).2 <;> rfl

theorem ends_draftUntil (g : Gateway) (rows : List StopTime) :
    (draftUntil rows).Ends g (draftsUntil g rows) := by
  induction rows with
  | nil => exact Task.ends_pure _ g
  | cons r rest ih =>
    refine Task.Ends.bind (ends_draft g r) ?_
    rw [draftsUntil]
    cases draftIn g r with
    | error e => exact Task.ends_pure _ g
    | ok d => exact ih.bind (Task.ends_pure _ g)

theorem ends_draftEach (g : Gateway) (rows : List StopTime) :
    (draftEach rows).Ends g (rows.filterMap fun r => (draftIn g r).toOption) := by
  induction rows with
  | nil => exact Task.ends_pure _ g
  | cons r rest ih =>
    refine Task.Ends.bind (ends_draft g r) ?_
    rw [List.filterMap_cons]
    cases draftIn g r with
    | error e => exact ih
    | ok d => exact ih.bind (Task.ends_pure _ g)

/-- The trips that drafts wait for. -/
def tripsFor (g : Gateway) (drafts : List Draft) : List (Except LoadError (Option Trip)) :=
  ((drafts.filter (·.waits)).map (·.view.row.tripId)).map fun id => .ok (g.warehouse.trip? id)

theorem ends_loadTrips (g : Gateway) (drafts : List Draft) :
    (loadTrips drafts).Ends g (tripsFor g drafts) :=
  Task.ends_load (Resolve.separate_reference .trip) (Task.ends_pure _ g)

theorem fill_eq (g : Gateway) (drafts : List Draft) :
    fill drafts (tripsFor g drafts) = .ok (drafts.map (filled g)) := by
  induction drafts with
  | nil => rfl
  | cons d rest ih =>
    unfold tripsFor at ih ⊢
    cases waits : d.waits with
    | true =>
      simp only [List.filter_cons_of_pos, waits, List.map_cons, fill, if_true, ih, filled]
      rfl
    | false =>
      rw [List.filter_cons_of_neg (by simp [waits])]
      simp only [fill, waits, ih, List.map_cons, filled, Bool.false_eq_true, if_false]
      rfl

/-- Rows have their views, or the error of the first row that has none. -/
theorem ofRows_ends (g : Gateway) (rows : List StopTime) :
    (ofRows rows).Ends g (rows.mapM (viewOf g)) := by
  refine Resolve.Ends.bind_ok (Resolve.Ends.task (ends_draftUntil g rows)) ?_
  rw [views_eq]
  obtain ⟨drafts, failed⟩ := draftsUntil g rows
  cases failed with
  | none =>
    refine Resolve.Ends.bind_ok (Resolve.Ends.task (ends_loadTrips g drafts)) ?_
    rw [fill_eq]
    exact Resolve.ends_ofExcept _ g
  | some failed =>
    -- What the rows behind the first failure still load changes nothing about its error.
    obtain ⟨e, rest⟩ := failed
    dsimp only
    split
    · refine Resolve.Ends.bind_ok (Resolve.Ends.task (ends_draftEach g rest)) ?_
      refine Resolve.Ends.bind_ok (Resolve.Ends.task (ends_loadTrips g _)) ?_
      exact Task.ends_pure _ g
    · exact Task.ends_pure _ g

variable {g : Gateway} {r : StopTime}

theorem bind_eq_ok {α β : Type} {a : Except FieldError α} {f : α → Except FieldError β} {b : β} :
    (a >>= f) = .ok b ↔ ∃ x, a = .ok x ∧ f x = .ok b := by
  cases a <;> simp [bind, Except.bind]

theorem row_of_draft {d : Draft} (drafted : draftIn g r = .ok d) : d.view.row = r := by
  obtain ⟨_, _, drafted⟩ := bind_eq_ok.mp drafted
  obtain ⟨_, _, drafted⟩ := bind_eq_ok.mp drafted
  obtain ⟨_, _, drafted⟩ := bind_eq_ok.mp drafted
  cases named : r.addedTripId? with
  | none =>
    rw [named] at drafted
    obtain rfl := Except.ok.inj drafted
    rfl
  | some id =>
    rw [named] at drafted
    obtain ⟨_, _, drafted⟩ := bind_eq_ok.mp drafted
    obtain rfl := Except.ok.inj drafted
    rfl

theorem row_of_view {v : RowView} (viewed : viewOf g r = .ok v) : v.row = r := by
  obtain ⟨d, drafted, viewed⟩ := bind_eq_ok.mp viewed
  obtain rfl := Except.ok.inj viewed
  rw [← row_of_draft drafted, filled]
  split <;> rfl

theorem relationship_of_known {snapshot : Realtime.Snapshot}
    (known : g.snapshotOf r.feedVersionId = .ok snapshot) :
    ∃ relationship, r.relationshipIn g = .ok relationship := by
  unfold StopTime.relationshipIn
  rw [known]
  split
  · exact ⟨_, rfl⟩
  · split
    · exact ⟨_, rfl⟩
    · cases IdCache.tripId? g.warehouse g.ids r.tripId <;> exact ⟨_, rfl⟩

/-- A row whose feed version is known has a view if its stop has a zone and its trip, if it is
outside the schedule, can be made up. -/
theorem viewOf_ok_iff {snapshot : Realtime.Snapshot}
    (known : g.snapshotOf r.feedVersionId = .ok snapshot) :
    (∃ v, viewOf g r = .ok v) ↔
      (∃ zone, IdCache.stopZone? g.warehouse g.ids r.stopId "" = some zone) ∧
        ∀ id, r.addedTripId? = some id → ∃ trip, g.addedTrip r.feedVersionId id = .ok trip := by
  obtain ⟨relationship, related⟩ := relationship_of_known known
  unfold viewOf draftIn StopTime.eventIn StopTime.zoneIn
  rw [related]
  cases IdCache.stopZone? g.warehouse g.ids r.stopId "" with
  | none => simp [bind, Except.bind]
  | some zone =>
    cases r.addedTripId? with
    | none => simp [bind, Except.bind, pure, Except.pure]
    | some id =>
      cases found : g.addedTrip r.feedVersionId id <;>
        simp [bind, Except.bind, pure, Except.pure, Except.mapError, found]

theorem views_of_each {rows : List StopTime} (each : ∀ r ∈ rows, ∃ v, viewOf g r = .ok v) :
    ∃ views, rows.mapM (viewOf g) = .ok views := by
  induction rows with
  | nil => exact ⟨[], rfl⟩
  | cons r rest ih =>
    obtain ⟨v, first⟩ := each r List.mem_cons_self
    obtain ⟨vs, others⟩ := ih fun x inside => each x (List.mem_cons_of_mem r inside)
    exact ⟨v :: vs, by rw [List.mapM_cons, first, others]; rfl⟩

theorem each_of_views {rows : List StopTime} {views : List RowView}
    (ok : rows.mapM (viewOf g) = .ok views) :
    views.map (·.row) = rows ∧ ∀ r ∈ rows, ∃ v, viewOf g r = .ok v := by
  induction rows generalizing views with
  | nil =>
    obtain rfl := Except.ok.inj ok
    exact ⟨rfl, by simp⟩
  | cons r rest ih =>
    rw [List.mapM_cons] at ok
    obtain ⟨v, first, ok⟩ := bind_eq_ok.mp ok
    obtain ⟨vs, others, ok⟩ := bind_eq_ok.mp ok
    obtain rfl := Except.ok.inj ok
    obtain ⟨rows, each⟩ := ih others
    refine ⟨by rw [List.map_cons, row_of_view first, rows], ?_⟩
    exact List.forall_mem_cons.mpr ⟨⟨v, first⟩, each⟩

end Http.RowView

end Transit
