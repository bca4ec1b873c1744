import Transit.Proofs.Field.AddedRows
import Transit.Proofs.Http.StopRows
set_option autoImplicit false

/-!
# The schedule and what is outside it

Realtime data leaves the scheduled rows of a stop in its response, with a status that may change for
one reason only: a row outside the schedule whose view cannot be made takes the whole response with
it (`schedule_survives`).
-/

namespace Transit

namespace Gateway

/-- The gateway without realtime messages. -/
def withoutMessages (g : Gateway) : Gateway := { g with topics := [] }

/-- The row of a call outside the schedule has a view: its stop has a zone, and if its trip has an
id, then the update found for the id names a route of the feed version. -/
structure Resolves (g : Gateway) (snapshot : Realtime.Snapshot) (s : Stop)
    (call : Realtime.TripUpdate × Realtime.StopTimeUpdate) : Prop where
  zone : ∃ zone, IdCache.stopZone? g.warehouse g.ids s.id "" = some zone
  route : ∀ id, call.1.trip.tripId = some id → ∃ update, snapshot.trip? id = some update ∧
    ∃ routeId, IdCache.routeId? g.warehouse g.ids s.feedVersionId (update.trip.routeId.getD "") =
      some routeId

variable {g : Gateway} {snapshot : Realtime.Snapshot} {version : Int}

theorem resolves_startRequest {user : User} {s : Stop}
    {call : Realtime.TripUpdate × Realtime.StopTimeUpdate} :
    (g.startRequest user).Resolves snapshot s call ↔ g.Resolves snapshot s call :=
  ⟨fun resolves => ⟨resolves.zone, resolves.route⟩, fun resolves => ⟨resolves.zone, resolves.route⟩⟩

theorem addedTrip_ok_iff (known : g.snapshotOf version = .ok snapshot) (id : String) :
    (∃ trip, g.addedTrip version id = .ok trip) ↔ ∃ update, snapshot.trip? id = some update ∧
      ∃ routeId, IdCache.routeId? g.warehouse g.ids version (update.trip.routeId.getD "") =
        some routeId := by
  simp only [addedTrip, known]
  cases snapshot.trip? id with
  | none => simp
  | some update =>
    cases found : IdCache.routeId? g.warehouse g.ids version (update.trip.routeId.getD "") <;>
      simp [found]

/-- Feeds without messages have nothing to say, but bear on the same feed versions. -/
theorem snapshot_withoutMessages {silent : Realtime.Snapshot}
    (known : g.withoutMessages.snapshotOf version = .ok silent) :
    silent.tripSources = [] ∧ ∃ snapshot, g.snapshotOf version = .ok snapshot := by
  change (IdCache.feeds? g.warehouse g.ids version).map _ = _ at known
  unfold snapshotOf
  cases feeds : IdCache.feeds? g.warehouse g.ids version with
  | error e =>
    rw [feeds] at known
    cases known
  | ok found =>
    rw [feeds] at known
    obtain rfl := Except.ok.inj known
    refine ⟨List.filterMap_eq_nil_iff.mpr fun source member => ?_, _, rfl⟩
    obtain ⟨feed, _, rfl⟩ := List.mem_map.mp member
    rfl

end Gateway

namespace Stop

theorem shown_ok {s : Stop} {g : Gateway} {limit : Option Int} {filter : StopTimeFilter}
    {rows : List StopTime} (shows : s.shown g limit filter = .ok rows) :
    ∃ zone snapshot, IdCache.stopZone? g.warehouse g.ids s.id s.stopTimezone = some zone ∧
      g.snapshotOf s.feedVersionId = .ok snapshot ∧
      rows = s.shownOver g zone snapshot limit filter := by
  unfold shown at shows
  cases zoned : IdCache.stopZone? g.warehouse g.ids s.id s.stopTimezone with
  | none =>
    rw [zoned] at shows
    cases shows
  | some zone =>
    rw [zoned] at shows
    cases known : g.snapshotOf s.feedVersionId with
    | error e =>
      rw [known] at shows
      cases shows
    | ok snapshot =>
      rw [known] at shows
      exact ⟨zone, snapshot, rfl, rfl, (Except.ok.inj shows).symm⟩

theorem version_of_selected {s : Stop} {g : Gateway} {zone : Zone} {limit : Option Int}
    {filter : StopTimeFilter} {r : StopTime} (member : r ∈ s.selected g zone limit filter) :
    r.feedVersionId = s.feedVersionId := by
  obtain ⟨day, _, row, inRows, rfl⟩ := mem_rowsOfDays member
  obtain ⟨_, version, _⟩ := Warehouse.mem_rowsAt.mp inRows
  unfold StopTime.onDay
  split <;> exact version

theorem shownOver_calls (s : Stop) (g : Gateway) (zone : Zone) (snapshot : Realtime.Snapshot)
    (limit : Option Int) (filter : StopTimeFilter) :
    s.shownOver g zone snapshot limit filter = StopTime.sorted zone
      ((s.selected g zone limit filter).map (g.overlay snapshot s) ++
        (snapshot.addedCalls s.stopId).map fun call => StopTime.ofAdded s
          ((s.plainIn g zone filter).addedDate (zone.localNow g.now).1) call.1 call.2) := by
  rw [shownOver, Gateway.merged, StopTime.addedRows_eq]

end Stop

namespace Http

open RowView

variable {g : Gateway} {s : Stop} {snapshot : Realtime.Snapshot}

/-- The row of a call outside the schedule has a view just if the call resolves. -/
theorem view_of_call (known : g.snapshotOf s.feedVersionId = .ok snapshot)
    (date : Option Date) (call : Realtime.TripUpdate × Realtime.StopTimeUpdate) :
    (∃ v, viewOf g (StopTime.ofAdded s date call.1 call.2) = .ok v) ↔
      g.Resolves snapshot s call := by
  rw [viewOf_ok_iff known]
  have added : (StopTime.ofAdded s date call.1 call.2).addedTripId? = call.1.trip.tripId := rfl
  rw [added]
  constructor
  · rintro ⟨zone, trips⟩
    exact ⟨zone, fun id named => (Gateway.addedTrip_ok_iff known id).mp (trips id named)⟩
  · rintro ⟨zone, routes⟩
    exact ⟨zone, fun id named => (Gateway.addedTrip_ok_iff known id).mpr (routes id named)⟩

/-- A scheduled row that has a view without messages has one with them. -/
theorem view_of_scheduled {silent : Realtime.Snapshot} {r : StopTime}
    (version : r.feedVersionId = s.feedVersionId)
    (quiet : g.withoutMessages.snapshotOf s.feedVersionId = .ok silent)
    (known : g.snapshotOf s.feedVersionId = .ok snapshot)
    (viewed : ∃ v, viewOf g.withoutMessages (g.withoutMessages.overlay silent s r) = .ok v) :
    ∃ v, viewOf g (g.overlay snapshot s r) = .ok v := by
  obtain ⟨before, sameBefore⟩ := g.withoutMessages.overlay_eq silent s r
  obtain ⟨after, sameAfter⟩ := g.overlay_eq snapshot s r
  rw [sameBefore] at viewed
  rw [sameAfter]
  rw [← version] at quiet known
  obtain ⟨zone, trips⟩ := (viewOf_ok_iff (r := { r with update := before }) quiet).mp viewed
  refine (viewOf_ok_iff (r := { r with update := after }) known).mpr ⟨zone, fun id named => ?_⟩
  -- Without messages no trip outside the schedule can be made up.
  obtain ⟨update, found, _⟩ := (Gateway.addedTrip_ok_iff quiet id).mp (trips id named)
  rw [Realtime.Snapshot.trip?, (Gateway.snapshot_withoutMessages quiet).1] at found
  contradiction

theorem stopPage_ok {id : Int} {limit : Option Int} {filter : StopTimeFilter}
    {views : List RowView} :
    stopPage g id limit filter = .ok views ↔ ∃ s rows,
      Reference.find? g.warehouse id .stop = some s ∧ s.shown g limit filter = .ok rows ∧
        rows.mapM (viewOf g) = .ok views := by
  unfold stopPage
  cases Reference.find? g.warehouse id .stop with
  | none => simp
  | some s => simp [bind_eq_ok]

/-- All rows of a stop have views just if all calls outside the schedule resolve, as long as the
scheduled rows have views without messages. -/
theorem views_of_shown {silent : Realtime.Snapshot} {zone : Zone} {limit : Option Int}
    {filter : StopTimeFilter}
    (quiet : g.withoutMessages.snapshotOf s.feedVersionId = .ok silent)
    (known : g.snapshotOf s.feedVersionId = .ok snapshot)
    (each : ∀ r ∈ s.selected g zone limit filter,
      ∃ v, viewOf g.withoutMessages (g.withoutMessages.overlay silent s r) = .ok v) :
    (∃ loud, (s.shownOver g zone snapshot limit filter).mapM (viewOf g) = .ok loud) ↔
      ∀ call ∈ snapshot.addedCalls s.stopId, g.Resolves snapshot s call := by
  rw [Stop.shownOver_calls]
  constructor
  · rintro ⟨loud, views⟩ call member
    let date := (s.plainIn g zone filter).addedDate (zone.localNow g.now).1
    refine (view_of_call known date call).mp ((each_of_views views).2 _ ?_)
    exact StopTime.mem_sorted.mpr (List.mem_append_right _ (List.mem_map_of_mem member))
  · intro resolves
    refine views_of_each fun r member => ?_
    rcases List.mem_append.mp (StopTime.mem_sorted.mp member) with scheduled | added
    · obtain ⟨row, inSelected, rfl⟩ := List.mem_map.mp scheduled
      exact view_of_scheduled (Stop.version_of_selected inSelected) quiet known
        (each row inSelected)
    · obtain ⟨call, inCalls, rfl⟩ := List.mem_map.mp added
      exact (view_of_call known _ call).mpr (resolves call inCalls)

/-- The same scheduled rows in two lists, apart from their updates, and further rows in the second
list. -/
def SameSchedule (quiet loud outside : List StopTime) : Prop :=
  ∃ scheduled : List (StopTime × StopTime), quiet.Perm (scheduled.map (·.1)) ∧
    loud.Perm (scheduled.map (·.2) ++ outside) ∧
    ∀ pair ∈ scheduled, ∃ update, pair.2 = { pair.1 with update }

theorem sameSchedule_overlay (g h : Gateway) (silent snapshot : Realtime.Snapshot) (s : Stop)
    (zone : Zone) (rows outside : List StopTime) :
    SameSchedule (StopTime.sorted zone (rows.map (g.overlay silent s)))
      (StopTime.sorted zone (rows.map (h.overlay snapshot s) ++ outside)) outside := by
  refine ⟨rows.map fun r => (g.overlay silent s r, h.overlay snapshot s r), ?_, ?_, ?_⟩
  · rw [List.map_map]
    exact StopTime.sorted_perm zone _
  · rw [List.map_map]
    exact StopTime.sorted_perm zone _
  · intro pair member
    obtain ⟨row, _, rfl⟩ := List.mem_map.mp member
    obtain ⟨before, sameBefore⟩ := g.overlay_eq silent s row
    obtain ⟨after, sameAfter⟩ := h.overlay_eq snapshot s row
    exact ⟨after, by rw [sameBefore, sameAfter]⟩

/-- A page that is there without messages is there with them just if all calls outside the schedule
resolve, and then it shows the same schedule. -/
theorem stopPage_survives {id : Int} {limit : Option Int} {filter : StopTimeFilter}
    {quiet : List RowView} (page : stopPage g.withoutMessages id limit filter = .ok quiet) :
    ∃ s snapshot, Reference.find? g.warehouse id .stop = some s ∧
      g.snapshotOf s.feedVersionId = .ok snapshot ∧
      ((∃ loud, stopPage g id limit filter = .ok loud) ↔
        ∀ call ∈ snapshot.addedCalls s.stopId, g.Resolves snapshot s call) ∧
      ∀ loud, stopPage g id limit filter = .ok loud →
        ∃ date, SameSchedule (quiet.map (·.row)) (loud.map (·.row))
          ((snapshot.addedCalls s.stopId).map fun call =>
            StopTime.ofAdded s date call.1 call.2) := by
  obtain ⟨s, _, found, quietShows, quietViews⟩ := stopPage_ok.mp page
  obtain ⟨zone, silent, zoned, quietKnown, rfl⟩ := Stop.shown_ok quietShows
  obtain ⟨noSources, snapshot, known⟩ := Gateway.snapshot_withoutMessages quietKnown
  have noCalls : silent.addedCalls s.stopId = [] := by
    rw [Realtime.Snapshot.addedCalls, noSources]
    rfl
  rw [Stop.shownOver_calls, noCalls, List.map_nil, List.append_nil] at quietViews
  have shows : s.shown g limit filter = .ok (s.shownOver g zone snapshot limit filter) := by
    rw [Stop.shown, show IdCache.stopZone? g.warehouse g.ids s.id s.stopTimezone = some zone
      from zoned, known]
    rfl
  have page (loud : List RowView) : stopPage g id limit filter = .ok loud ↔
      (s.shownOver g zone snapshot limit filter).mapM (viewOf g) = .ok loud := by
    rw [stopPage, show Reference.find? g.warehouse id .stop = some s from found]
    dsimp only
    rw [shows]
    rfl
  obtain ⟨quietRows, each⟩ := each_of_views quietViews
  refine ⟨s, snapshot, found, known, ?_, ?_⟩
  · simp only [page]
    refine views_of_shown quietKnown known fun r inSelected => each _ ?_
    exact StopTime.mem_sorted.mpr (List.mem_map_of_mem inSelected)
  · intro loud shown
    have loudRows := (each_of_views ((page loud).mp shown)).1
    refine ⟨(s.plainIn g zone filter).addedDate (zone.localNow g.now).1, ?_⟩
    rw [quietRows, loudRows, Stop.shownOver_calls]
    exact sameSchedule_overlay _ _ silent snapshot s zone (s.selected g zone limit filter) _

namespace Request

open Stop (leaving nightStop extraGateway extraTrip extraRow extraSnapshot)

/-- The rows at stop 7 on 30 May 2018. -/
def dayRequest : Request where
  path := "/stops/7/stop_times?service_date=2018-05-30"

def dayFilter : StopTimeFilter := { serviceDate := some ⟨17681⟩ }

theorem rowsQuery_dayRequest : dayRequest.rowsQuery? = some (7, none, dayFilter) := by
  decide +kernel

theorem asks_dayRequest : dayRequest.AsksForRows :=
  .stopTimes "7" rfl

theorem selected_extraGateway (update : Realtime.TripUpdate) :
    nightStop.selected (extraGateway [leaving 36000] update) ⟨"UTC", 0, []⟩ none dayFilter =
      [(leaving 36000).stamp ⟨17681⟩] := by
  have only : (extraGateway [leaving 36000] update).warehouse.stopTimes = [leaving 36000] := rfl
  have days : (nightStop.plainIn (extraGateway [leaving 36000] update) ⟨"UTC", 0, []⟩
      dayFilter).splitDays 21600 = [dayFilter] := rfl
  have lookbehind : (extraGateway [leaving 36000] update).settings.lookbehind = 21600 := rfl
  rw [Stop.selected, lookbehind, days, Stop.rowsOfDays, List.flatMap_singleton,
    Warehouse.rowsAt_of_single only]
  rfl

theorem serve_dayRequest_quiet (update : Realtime.TripUpdate) : ∃ view,
    (dayRequest.serve (extraGateway [leaving 36000] update).withoutMessages).1 =
      .ok (.ofList RowView.toJson [view]) ∧ view.row = (leaving 36000).stamp ⟨17681⟩ := by
  let g := (extraGateway [leaving 36000] update).withoutMessages.startRequest {}
  have shows : nightStop.shown g none dayFilter = .ok [(leaving 36000).stamp ⟨17681⟩] := by
    have covered : nightStop.shown g none dayFilter = .ok
        (nightStop.shownOver g ⟨"UTC", 0, []⟩ ⟨[{ feed := "BA" }]⟩ none dayFilter) := rfl
    have selected : nightStop.selected g ⟨"UTC", 0, []⟩ none dayFilter =
        [(leaving 36000).stamp ⟨17681⟩] := selected_extraGateway update
    rw [covered, Stop.shownOver_calls, selected]
    exact congrArg Except.ok (StopTime.sorted_singleton _ _)
  obtain ⟨view, viewed⟩ : ∃ view, viewOf g ((leaving 36000).stamp ⟨17681⟩) = .ok view := ⟨_, rfl⟩
  have page : stopPage g 7 none dayFilter = .ok [view] :=
    stopPage_ok.mpr ⟨nightStop, _, rfl, shows, by rw [List.mapM_cons, viewed]; rfl⟩
  refine ⟨view, ?_, row_of_view viewed⟩
  rw [serve_stopRows rfl asks_dayRequest, rowsQuery_dayRequest]
  exact congrArg pageResponse page

/-- A request for the rows of a stop that is answered without realtime messages is answered with
them just if every call at the stop outside the schedule resolves, and then shows every scheduled
row, apart from updates, and a row for each of these calls. -/
theorem schedule_survives (g : Gateway) (r : Request) (get : r.method = "GET")
    (asks : r.AsksForRows) (answered : (r.serve g.withoutMessages).1.status = 200) :
    ∃ s ∈ g.warehouse.stops, ∃ snapshot quiet,
      (r.serve g.withoutMessages).1 = .ok (.ofList RowView.toJson quiet) ∧
      g.snapshotOf s.feedVersionId = .ok snapshot ∧
      ((r.serve g).1.status = 200 ↔
        ∀ call ∈ snapshot.addedCalls s.stopId, g.Resolves snapshot s call) ∧
      ((r.serve g).1.status = 200 → ∃ loud date,
        (r.serve g).1 = .ok (.ofList RowView.toJson loud) ∧
        SameSchedule (quiet.map (·.row)) (loud.map (·.row))
          ((snapshot.addedCalls s.stopId).map fun call =>
            StopTime.ofAdded s date call.1 call.2)) := by
  have serves := serve_stopRows get asks
  cases query : r.rowsQuery? with
  | none =>
    rw [serves, query] at answered
    cases answered
  | some asked =>
    obtain ⟨id, limit, filter⟩ := asked
    simp only [query] at serves
    rw [serves] at answered
    obtain ⟨quiet, quietPage⟩ := status_pageResponse answered
    obtain ⟨s, snapshot, found, known, survives, schedule⟩ :=
      stopPage_survives (g := g.startRequest (r.caller g.granted)) quietPage
    have good : (r.serve g).1.status = 200 ↔
        ∃ loud, stopPage (g.startRequest (r.caller g.granted)) id limit filter = .ok loud := by
      rw [serves]
      refine ⟨status_pageResponse, ?_⟩
      rintro ⟨loud, page⟩
      rw [page]
      rfl
    refine ⟨s, List.mem_of_find?_eq_some found, snapshot, quiet, ?_, known, ?_, ?_⟩
    · rw [serves]
      exact congrArg pageResponse quietPage
    · rw [good, survives]
      exact forall₂_congr fun call _ => Gateway.resolves_startRequest
    · intro status
      obtain ⟨loud, page⟩ := good.mp status
      obtain ⟨date, same⟩ := schedule loud page
      refine ⟨loud, date, ?_, same⟩
      rw [serves, page]
      rfl

/-- A call of a trip of route `R` does no harm. -/
theorem schedule_survives_of_route :
    let g := extraGateway [leaving 36000] (extraTrip (some "R"))
    dayRequest.method = "GET" ∧ dayRequest.AsksForRows ∧
      (dayRequest.serve g.withoutMessages).1.status = 200 ∧
      (dayRequest.serve g).1.status = 200 := by
  intro g
  have answered : (dayRequest.serve g.withoutMessages).1.status = 200 := by
    obtain ⟨view, quiet, _⟩ := serve_dayRequest_quiet (extraTrip (some "R"))
    rw [quiet]
    rfl
  obtain ⟨s, inStops, snapshot, _, _, known, survives, _⟩ :=
    schedule_survives g dayRequest rfl asks_dayRequest answered
  obtain rfl := List.mem_singleton.mp inStops
  obtain rfl : extraSnapshot (extraTrip (some "R")) = snapshot := Except.ok.inj known
  refine ⟨rfl, asks_dayRequest, answered, survives.mpr fun call member => ?_⟩
  obtain rfl := List.mem_singleton.mp member
  refine ⟨⟨_, rfl⟩, fun id named => ?_⟩
  obtain rfl := Option.some.inj named
  exact ⟨_, rfl, 3, rfl⟩

/-- One call without a route, and the response with a scheduled row is an error. -/
theorem missing_route_takes_all :
    let g := extraGateway [leaving 36000] (extraTrip none)
    (∃ view, (dayRequest.serve g.withoutMessages).1 = .ok (.ofList RowView.toJson [view]) ∧
      view.row = (leaving 36000).stamp ⟨17681⟩) ∧
    (dayRequest.serve g).1.status = 502 := by
  refine ⟨serve_dayRequest_quiet _, ?_⟩
  let g := (extraGateway [leaving 36000] (extraTrip none)).startRequest {}
  have covered : nightStop.shown g none dayFilter = .ok
      (nightStop.shownOver g ⟨"UTC", 0, []⟩ (extraSnapshot (extraTrip none)) none dayFilter) := rfl
  have selected : nightStop.selected g ⟨"UTC", 0, []⟩ none dayFilter =
      [(leaving 36000).stamp ⟨17681⟩] := selected_extraGateway _
  have ordered : [(leaving 36000).stamp ⟨17681⟩, extraRow none].Pairwise
      fun a b => StopTime.noLater ⟨"UTC", 0, []⟩ a b = true := by
    decide
  have shows : nightStop.shown g none dayFilter =
      .ok [(leaving 36000).stamp ⟨17681⟩, extraRow none] := by
    rw [covered, Stop.shownOver_calls, selected, StopTime.sorted_eq]
    exact congrArg Except.ok (List.mergeSort_of_pairwise ordered)
  have page : stopPage g 7 none dayFilter =
      .error (.collaborator "trip" (.notFound "trip" "X")) := by
    rw [stopPage, show Reference.find? g.warehouse 7 .stop = some nightStop from rfl]
    dsimp only
    rw [shows]
    rfl
  rw [serve_stopRows rfl asks_dayRequest, rowsQuery_dayRequest]
  exact congrArg (fun page => (pageResponse page).status) page

end Request

end Http

end Transit
