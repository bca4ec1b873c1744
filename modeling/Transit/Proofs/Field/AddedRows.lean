import Transit.Proofs.Field.DateWindow
import Transit.Proofs.Field.Shown
set_option autoImplicit false

/-!
# Rows outside the schedule

The filter of a query selects scheduled rows only: every call at the stop of a trip outside the
schedule gets its row, whatever routes and times the filter asks for (`stopTimes_added`).
-/

namespace Transit

namespace Stop

variable {s : Stop} {w : Warehouse} {limit : Option Int} {days : List StopTimeFilter}

/-- A scheduled row comes from one of the days, whose conditions it meets. -/
theorem mem_rowsOfDays {r : StopTime} (member : r ∈ s.rowsOfDays w limit days) :
    ∃ day ∈ days, ∃ row ∈ w.rowsAt (s.feedVersionId, s.id) (some day), r = row.onDay day := by
  obtain ⟨day, inDays, inRows⟩ := List.mem_flatMap.mp member
  obtain ⟨row, taken, rfl⟩ := List.mem_map.mp inRows
  exact ⟨day, inDays, row, List.mem_of_mem_take taken, rfl⟩

/-- An update for a trip outside the schedule that calls once at the stop `S`, at 10:30 UTC on
30 May 2018. -/
def extraTrip (routeId : Option String) : Realtime.TripUpdate where
  trip := { tripId := some "X", routeId, scheduleRelationship := some 1 }
  stopTimeUpdates := [{ stopId := some "S", departure := some { time := some 1527676200 } }]

/-- A gateway that knows of one trip at the stop, on 30 May 2018 and of route `R`, and has one
message. -/
def extraGateway (rows : List StopTime) (update : Realtime.TripUpdate) : Gateway where
  warehouse := {
    feeds := [{ id := 1, onestopId := "BA" }]
    feedVersions := [{ id := 1, feedId := 1 }]
    routes := [{ id := 3, feedVersionId := 1, routeId := "R", onestopId := "r-one" },
      { id := 4, feedVersionId := 1, routeId := "Q", onestopId := "r-two" }]
    stops := [nightStop]
    trips := [{ id := 5, feedVersionId := 1, tripId := "T", routeId := 3, serviceId := 1 }]
    calendarDates := [{ id := 1, serviceId := 1, date := ⟨17681⟩, exceptionType := 1 }]
    stopTimes := rows }
  topics := [(Realtime.Topic.key ⟨"BA", .tripUpdates⟩, { trips := [("X", update)] })]
  request := .start {} {}

theorem active_extraGateway (rows : List StopTime) (update : Realtime.TripUpdate) :
    (extraGateway rows update).Active :=
  Gateway.active_startRequest (extraGateway rows update) {}

/-- The messages that bear on the feed version of the stop. -/
def extraSnapshot (update : Realtime.TripUpdate) : Realtime.Snapshot where
  feeds := [{ feed := "BA", tripUpdates := some { trips := [("X", update)] } }]

def extraRow (routeId : Option String) : StopTime :=
  StopTime.ofAdded nightStop (some ⟨17681⟩) (extraTrip routeId)
    { stopId := some "S", departure := some { time := some 1527676200 } }

/-- A stop without scheduled rows shows the call on its date, whatever else is asked for. -/
theorem display_extraGateway (routeId : Option String) (limit : Option Int)
    (filter : StopTimeFilter) (dated : (nightStop.plainIn (extraGateway [] (extraTrip routeId))
      ⟨"UTC", 0, []⟩ filter).addedDate ⟨0⟩ = some ⟨17681⟩) :
    ((nightStop.display limit filter).run.run (extraGateway [] (extraTrip routeId))).1 =
      .ok [extraRow routeId] := by
  let g := extraGateway [] (extraTrip routeId)
  have nothing : nightStop.selected g ⟨"UTC", 0, []⟩ limit filter = [] := by
    refine List.flatMap_eq_nil_iff.mpr fun day _ => ?_
    rw [Warehouse.rowsAt]
    simp [g, extraGateway]
  have shows : nightStop.shown g limit filter = .ok (g.merged (extraSnapshot (extraTrip routeId))
      nightStop ⟨"UTC", 0, []⟩ [] (some ⟨17681⟩)) := by
    rw [← dated, ← nothing]
    rfl
  have added : StopTime.addedRows (extraSnapshot (extraTrip routeId)) nightStop (some ⟨17681⟩) =
      [extraRow routeId] := rfl
  rw [(display_ends nightStop g limit filter).of_active (active_extraGateway _ _), shows,
    Gateway.merged, added, List.map_nil, List.nil_append, StopTime.sorted_singleton]

/-- A stop's times are the scheduled rows at the stop that meet the conditions of one of the service
days, each with its update, and exactly one row for each call that an update makes there for a trip
outside the schedule. These rows do not depend on the routes or the times that the filter asks for;
they carry the date of the filter, else its service date, else the date of the moment. The filter
may say that first and last calls are not left out, or say nothing about them. -/
theorem stopTimes_added (g : Gateway) (active : g.Active) (s : Stop) (limit : Option Int)
    (wanted : StopTimeFilter) (zone : Zone)
    (zoned : IdCache.stopZone? g.warehouse g.ids s.id s.stopTimezone = some zone)
    (snapshot : Realtime.Snapshot) (known : g.snapshotOf s.feedVersionId = .ok snapshot) :
    let filter := { wanted with
      excludeFirst := wanted.excludeFirst.filter (· == false)
      excludeLast := wanted.excludeLast.filter (· == false) }
    let plain := s.plainIn g zone filter
    let date := (plain.date.or plain.serviceDate).getD (zone.localNow g.now).1
    ∃ rows scheduled added, ((s.stopTimes limit (some filter)).run.run g).1 = .ok rows ∧
      rows.Perm (scheduled ++ added) ∧
      List.Forall₂ (fun call (row : StopTime) => row.StandsFor s (some date) call.1 call.2)
        (snapshot.addedCalls s.stopId) added ∧
      ∀ r ∈ scheduled, ∃ day ∈ plain.splitDays g.settings.lookbehind, ∃ row ∈ g.warehouse.stopTimes,
        row.feedVersionId = s.feedVersionId ∧ row.stopId = s.id ∧
          g.warehouse.stopTimeMatches day row = true ∧
          ∃ update, r = { row.onDay day with update } := by
  intro filter plain date
  have shows := (display_ends s g limit filter).of_active active
  rw [shown, zoned, known] at shows
  have dated : plain.addedDate (zone.localNow g.now).1 = some date := Option.or_some
  rw [← dated]
  refine ⟨_, (s.selected g zone limit filter).map (g.overlay snapshot s), _, shows,
    StopTime.sorted_perm zone _, StopTime.standFor_addedRows snapshot s _, ?_⟩
  intro r member
  obtain ⟨row, inRows, rfl⟩ := List.mem_map.mp member
  obtain ⟨day, inDays, found, answers, rfl⟩ := mem_rowsOfDays inRows
  obtain ⟨inWarehouse, version, atStop, holds⟩ := Warehouse.mem_rowsAt.mp answers
  exact ⟨day, inDays, found, inWarehouse, version, atStop, holds, g.overlay_eq snapshot s _⟩

/-- A query for route `r-two` that leaves no first call out, while a trip of route `r-one` calls at the
stop. -/
theorem stopTimes_added_of_extra :
    let g := extraGateway [leaving 36000] (extraTrip (some "R"))
    let filter : StopTimeFilter := {
      serviceDate := some ⟨17681⟩, routeOnestopIds := ["r-two"], excludeFirst := some false }
    g.Active ∧ IdCache.stopZone? g.warehouse g.ids nightStop.id nightStop.stopTimezone =
        some ⟨"UTC", 0, []⟩ ∧
      g.snapshotOf nightStop.feedVersionId = .ok (extraSnapshot (extraTrip (some "R"))) ∧
      ∃ rows, ((nightStop.stopTimes none (some filter)).run.run g).1 = .ok rows ∧
        ∃ r ∈ rows, r.StandsFor nightStop (some ⟨17681⟩) (extraTrip (some "R"))
          { stopId := some "S", departure := some { time := some 1527676200 } } := by
  intro g filter
  have active := active_extraGateway [leaving 36000] (extraTrip (some "R"))
  obtain ⟨rows, scheduled, added, shows, same, standing, _⟩ := stopTimes_added g active nightStop
    none filter ⟨"UTC", 0, []⟩ rfl (extraSnapshot (extraTrip (some "R"))) rfl
  obtain ⟨row, _, stands, _, rfl⟩ := List.forall₂_cons_left_iff.mp standing
  refine ⟨active, rfl, rfl, rows, shows, row, ?_, stands⟩
  exact same.mem_iff.mpr (List.mem_append_right _ List.mem_cons_self)

/-- A query for one route shows a call of another, and one for the first hour of the day a call at
10:30. -/
theorem other_route_shown :
    let g := extraGateway [] (extraTrip (some "R"))
    let other : StopTimeFilter := { serviceDate := some ⟨17681⟩, routeOnestopIds := ["r-two"] }
    let early : StopTimeFilter :=
      { serviceDate := some ⟨17681⟩, startTime := some 0, endTime := some 3600 }
    (((nightStop.stopTimes none (some other)).run.run g).1 = .ok [extraRow (some "R")] ∧
      (g.warehouse.routes.filter (·.routeId == "R")).map (·.onestopId) = ["r-one"] ∧
      "r-one" ∉ other.routeOnestopIds) ∧
    ((nightStop.departures none (some early)).run.run g).1 = .ok [extraRow (some "R")] ∧
      (extraRow (some "R")).estimate? ⟨"UTC", 0, []⟩ = some ⟨37800⟩ ∧ ¬ (37800 : Int) < 3600 := by
  refine ⟨⟨display_extraGateway _ _ _ rfl, by decide, by decide⟩, display_extraGateway _ _ _ rfl,
    rfl, by decide⟩

end Stop

end Transit
