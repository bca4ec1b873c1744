import Transit.Field.Feed
import Transit.Field.Root
import Transit.Field.Route
import Transit.Field.Stop
import Transit.Field.StopTime
import Transit.Proofs.Gateway.Outcome
import Transit.Proofs.Gateway.Steps
set_option autoImplicit false

/-!
# Consulting the warehouse

Whatever a field needs, it changes nothing but the request, the count of calls and what is
remembered of the warehouse, and the memories say the same afterwards (`Gateway.Consulted`). The
look-ups that lead to realtime messages and the fields of all rows are put together from such steps
(`Consults`).
-/

namespace Transit

namespace Gateway

variable {g h : Gateway} {l : Lookup}

/-- All that the loaders of the request hold comes from warehouses. -/
def Fed (g : Gateway) : Prop := ∀ l, g.FedBy l fun _ => True

theorem Fed.leads (fed : g.Fed) (leads : Leads l g h)
    (others : ∀ k, k ≠ l → h.loader k = g.loader k) : h.Fed := by
  intro k
  by_cases same : k = l
  · subst same
    exact (fed k).leads leads trivial
  · unfold FedBy
    rw [others k same]
    exact fed k

theorem fed_startRequest (g : Gateway) (user : User) : (g.startRequest user).Fed :=
  fun l => fedBy_startRequest g user l _

theorem Fed.cancel (fed : g.Fed) : g.cancel.Fed := by
  intro l
  obtain ⟨capacity, events, positive, reached, answered⟩ := fed l
  refine ⟨capacity, events ++ [.cancel], positive, ?_, ?_⟩
  · rw [Loader.run_append, ← reached]
    rfl
  · intro batch answer member
    rw [Loader.answers_append] at member
    rcases List.mem_append.mp member with before | none
    · exact answered batch answer before
    · cases none

/-- Nothing has changed but the request, the count of calls and what is remembered, and what is
remembered for fields still says the same. -/
structure Consulted (g h : Gateway) : Prop where
  frame : ∃ request ids bareIds serviceWindows calls,
    h = { g with request, ids, bareIds, serviceWindows, calls }
  ids : IdCache.Alike g.warehouse g.ids h.ids
  fed : g.Fed → h.Fed

theorem Consulted.warehouse (consulted : Consulted g h) : h.warehouse = g.warehouse := by
  obtain ⟨_, _, _, _, _, rfl⟩ := consulted.frame
  rfl

theorem Consulted.trans {last : Gateway} (first : Consulted g h) (second : Consulted h last) :
    Consulted g last := by
  have same := first.warehouse
  obtain ⟨⟨_, _, _, _, _, rfl⟩, ids, fed⟩ := first
  obtain ⟨⟨_, _, _, _, _, rfl⟩, idsLater, fedLater⟩ := second
  exact ⟨⟨_, _, _, _, _, rfl⟩, ids.trans idsLater, fun before => fedLater (fed before)⟩

theorem loaded_runBatch (g : Gateway) (l : Lookup) (batch : Batch l.Key) :
    g.Loaded (g.runBatch l batch) := by
  unfold runBatch
  dsimp only
  split
  · exact ⟨_, _, rfl⟩
  · exact ⟨_, _, rfl⟩

theorem loaded_runWaiting (g : Gateway) (l : Lookup) : g.Loaded (g.runWaiting l) := by
  rw [runWaiting]
  generalize (g.loader l).waiting = batches
  induction batches generalizing g with
  | nil => exact ⟨_, _, rfl⟩
  | cons batch rest ih =>
    obtain ⟨_, _, first⟩ := loaded_runBatch g l batch
    obtain ⟨loaders, calls, last⟩ := ih (g.runBatch l batch)
    refine ⟨loaders, calls, ?_⟩
    rw [List.foldl_cons, last, first]

theorem Loaded.consulted (loaded : g.Loaded h) (fed : g.Fed → h.Fed) : Consulted g h := by
  obtain ⟨_, _, rfl⟩ := loaded
  exact ⟨⟨_, _, _, _, _, rfl⟩, .refl _ _, fed⟩

/-- A relation lasts if it lasts over steps in a row and contains all that loaders do. -/
theorem Lasting.of_loaded {R : Gateway → Gateway → Prop}
    (trans : ∀ {g h last}, R g h → R h last → R g last)
    (loaded : ∀ {g h : Gateway}, g.Loaded h → (g.Fed → h.Fed) → R g h) : Lasting R where
  refl _ := loaded ⟨_, _, rfl⟩ id
  trans := trans
  counts _ _ := loaded ⟨_, _, rfl⟩ id
  submits g l keys :=
    have leads := submitAll_leads g l keys
    loaded leads.loaded fun fed =>
      fed.leads leads fun _ other => loader_setLoader_of_ne other g _
  works g l := loaded (loaded_runWaiting g l) fun fed =>
    fed.leads (runWaiting_spec (fed l) trivial).1 fun _ other => loader_runWaiting_of_ne other g
  expires g l :=
    have leads := (expireOpen_spec g l).1
    loaded leads.loaded fun fed => fed.leads leads fun _ other => loader_expireOpen_of_ne other g

theorem lasting_consulted : Lasting Consulted :=
  .of_loaded Consulted.trans Loaded.consulted

end Gateway

open Gateway (Consulted lasting_consulted)

/-! ## Tasks -/

namespace Task

variable {α : Type}

abbrev Consults (t : Task α) : Prop := t.Within Consulted

theorem consults_remember {lookup : Warehouse → IdCache → Remembered α}
    (keeps : ∀ w c, IdCache.Alike w c (lookup w c).cache) : (remember lookup).Consults :=
  ⟨fun g => ⟨⟨_, _, _, _, _, rfl⟩, keeps g.warehouse g.ids, fun fed => fed⟩, fun _ => trivial⟩

theorem consults_rememberBare (lookup : Warehouse → IdCache → Remembered α) :
    (rememberBare lookup).Consults :=
  ⟨fun _ => ⟨⟨_, _, _, _, _, rfl⟩, .refl _ _, fun fed => fed⟩, fun _ => trivial⟩

theorem consults_serviceWindow (version : Int) : (serviceWindow version).Consults := by
  refine ⟨fun g => ?_, fun _ => trivial⟩
  dsimp only
  split
  · exact lasting_consulted.refl g
  · exact ⟨⟨_, _, _, _, _, rfl⟩, .refl _ _, fun fed => fed⟩

theorem consults_stopZone (id : Int) (known : String) : (stopZone id known).Consults :=
  consults_remember (IdCache.remembers_stopZone id known).keeps

theorem consults_tripId (id : Int) : (remember (IdCache.tripId id)).Consults :=
  consults_remember (IdCache.remembers_tripId id).keeps

theorem consults_readFeeds (feeds : List String) : (readFeeds feeds).Consults := by
  induction feeds with
  | nil => trivial
  | cons feed rest ih =>
    exact (within_look lasting_consulted _).bind fun _ => ih.bind fun _ => within_pure _ _

theorem consults_snapshot (version : Int) : (snapshot version).Consults := by
  refine (consults_remember (IdCache.remembers_feeds version).keeps).bind fun found => ?_
  cases found with
  | error e => trivial
  | ok feeds => exact (consults_readFeeds feeds).bind fun _ => within_pure _ _

theorem consults_inSnapshot (version : Int) (view : Realtime.Snapshot → α) :
    (inSnapshot version view).Consults :=
  (consults_snapshot version).bind fun _ => within_pure _ _

theorem consults_addedTrip (version : Int) (tripId : String) :
    (addedTrip version tripId).Consults := by
  refine (consults_snapshot version).bind fun found => ?_
  cases found with
  | error e => trivial
  | ok s =>
    dsimp only
    split
    · trivial
    · refine (consults_remember (IdCache.remembers_routeId version _).keeps).bind fun route => ?_
      split <;> trivial

theorem consults_visitUpdate (trip : Trip) (row : StopTime) : (visitUpdate trip row).Consults := by
  refine (consults_snapshot trip.feedVersionId).bind fun found => ?_
  cases found with
  | error e => trivial
  | ok s =>
    dsimp only
    split
    · trivial
    · refine (consults_remember (IdCache.remembers_stopId row.stopId).keeps).bind fun stop => ?_
      split <;> trivial

theorem consults_tripIdsOf (rows : List StopTime) : (tripIdsOf rows).Consults := by
  induction rows with
  | nil => trivial
  | cons row rest ih =>
    rw [tripIdsOf]
    split
    · refine ih.bind fun others => ?_
      split <;> trivial
    · refine (consults_tripId row.tripId).bind fun tripId => ?_
      split
      · trivial
      · refine ih.bind fun others => ?_
        split <;> trivial

theorem consults_mergeStopTimes (snapshot : Realtime.Snapshot) (stop : Stop) (z : Zone)
    (rows : List StopTime) (addedDate : Option Date) :
    (mergeStopTimes snapshot stop z rows addedDate).Consults := by
  rw [mergeStopTimes]
  split
  · trivial
  · refine (consults_tripIdsOf rows).bind fun found => ?_
    split <;> trivial

end Task

/-! ## Fields -/

/-- A field or selection consults the warehouse and does nothing else. -/
abbrev Consults {ε α : Type} (r : ExceptT ε Task α) : Prop := Stays Consulted r

namespace Resolve

variable {α : Type}

theorem consults_look (view : Gateway → α) : Consults (look view) :=
  stays_look lasting_consulted view

theorem consults_row (r : Reference) (id : Int) (field : String) :
    Consults (row r id field) :=
  ⟨fun _ => trivial⟩

theorem consults_reference (r : Reference) (id : Option Int) (field : String) :
    Consults (reference r id field) := by
  cases id with
  | none => exact .pure _ _
  | some id => exact consults_row r id field

theorem consults_rows (r : Relation) (parent : r.Parent) (field : String)
    (limit : Option Int) (filter : Option r.Filter) :
    Consults (rows r parent field limit filter) :=
  ⟨fun _ => trivial⟩

theorem consults_ask (method : String) (query : Warehouse → α) : Consults (ask method query) :=
  stays_ask lasting_consulted method query

theorem consults_checkCancelled : Consults checkCancelled := by
  refine (consults_look _).bind fun stopped => ?_
  split
  · exact .throw _ _
  · exact .pure _ _

theorem consults_alerts (version : Int) (active : Option Bool) (limit : Option Int)
    (picks : Realtime.AlertMessage → Bool) : Consults (alerts version active limit picks) :=
  (consults_look _).bind fun _ => stays_on (Task.consults_inSnapshot _ _)

end Resolve

open Resolve

theorem Feed.consults_alerts (f : Feed) (active : Option Bool) (limit : Option Int) :
    Consults (f.alerts active limit) :=
  (consults_look _).bind fun _ => (consults_look _).bind fun _ => .pure _ _

theorem Route.consults_geometry (r : Route) : Consults r.geometry :=
  (consults_rows _ _ _ _ _).bind fun _ => .pure _ _

theorem Calendar.consults_exceptions (c : Calendar) (exceptionType : Int) (field : String)
    (limit : Option Int) : Consults (c.exceptions exceptionType field limit) :=
  (consults_rows _ _ _ _ _).bind fun _ => .pure _ _

theorem FeedVersion.consults_effectiveServiceWindow (v : FeedVersion) :
    Consults v.effectiveServiceWindow :=
  stays_on (Task.consults_serviceWindow v.id)

theorem StopExternalReference.consults_targetActiveStop (r : StopExternalReference) :
    Consults r.targetActiveStop := by
  unfold targetActiveStop
  split
  · exact .pure _ _
  · exact consults_row _ _ _

namespace Trip

theorem consults_scheduleRelationship (t : Trip) : Consults t.scheduleRelationship :=
  (stays_on (Task.consults_inSnapshot _ _)).bind fun _ => .pure _ _

theorem consults_timestamp (t : Trip) : Consults t.timestamp :=
  (stays_on (Task.consults_snapshot _)).bind fun _ => .pure _ _

end Trip

namespace StopTime

variable (r : StopTime)

theorem consults_trip : Consults r.trip := by
  unfold trip
  split
  · exact (stays_on (Task.consults_addedTrip _ _)).bind fun _ => .pure _ _
  · exact consults_row _ _ _

theorem consults_zone : Consults r.zone := by
  refine (stays_on (Task.consults_stopZone _ _)).bind fun found => ?_
  split
  · exact .pure _ _
  · exact .throw _ _

theorem consults_arrival : Consults r.arrival :=
  r.consults_zone.bind fun _ => .pure _ _

theorem consults_departure : Consults r.departure :=
  r.consults_zone.bind fun _ => .pure _ _

theorem consults_scheduleRelationship : Consults r.scheduleRelationship := by
  unfold scheduleRelationship
  split
  · exact .pure _ _
  · split
    · exact .pure _ _
    · refine (stays_on (Task.consults_tripId _)).bind fun found => ?_
      split
      · exact .pure _ _
      · exact (stays_on (Task.consults_inSnapshot _ _)).bind fun _ => .pure _ _

end StopTime

namespace Stop

variable (s : Stop) (limit : Option Int)

theorem consults_nearbyStops (radius : Option Float) :
    Consults (s.nearbyStops limit radius) :=
  (consults_look _).bind fun _ => consults_ask _ _

theorem consults_windowFor (filter : StopTimeFilter) : Consults (s.windowFor filter) := by
  unfold windowFor
  split
  · exact stays_on (Task.consults_serviceWindow _)
  · exact .pure _ _

theorem consults_scheduled (days : List StopTimeFilter) : Consults (s.scheduled limit days) :=
  ⟨fun _ => trivial⟩

theorem consults_display (filter : StopTimeFilter) : Consults (s.display limit filter) := by
  refine (stays_on (Task.consults_stopZone _ _)).bind fun found => ?_
  split
  · exact (consults_look _).bind fun _ => (s.consults_windowFor filter).bind fun _ =>
      (consults_look _).bind fun _ => (s.consults_scheduled limit _).bind fun _ =>
      consults_checkCancelled.bind fun _ => (stays_on (Task.consults_snapshot _)).bind fun _ =>
      stays_on (Task.consults_mergeStopTimes ..)
  · exact .throw _ _

theorem consults_stopTimes (filter : Option StopTimeFilter) :
    Consults (s.stopTimes limit filter) :=
  s.consults_display limit _

theorem consults_departures (filter : Option StopTimeFilter) :
    Consults (s.departures limit filter) :=
  s.consults_display limit _

theorem consults_arrivals (filter : Option StopTimeFilter) :
    Consults (s.arrivals limit filter) :=
  s.consults_display limit _

end Stop

/-! ## Root selections -/

namespace Root

theorem consults_me : Consults me :=
  (stays_requireRole lasting_consulted _).bind fun _ => consults_look _

theorem consults_checkArea (near : Option PointRadius) (bbox : Option BoundingBox) :
    Consults (checkArea near bbox) := by
  refine (consults_look _).bind fun _ => ?_
  cases bbox with
  | none => exact .pure _ _
  | some box => exact (stays_ofExcept _ _).bind fun _ => .pure _ _

theorem consults_list {ω τ : Type} (method : String) (args : RootArgs ω)
    (limit : Gateway → Option Int → Nat) (query : Warehouse → ListArgs ω → List τ) :
    Consults (list method args limit query) :=
  (consults_look _).bind fun _ => (stays_ofExcept _ _).bind fun _ => consults_ask _ _

theorem consults_meter (name : String) : Consults (meter name) :=
  stays_task (Task.within_change fun _ =>
    ⟨⟨_, _, _, _, _, rfl⟩, .refl _ _, fun fed => fed⟩)

/-- A listing whose filter may name an area. -/
theorem consults_within {ω τ : Type} (name : String) (filter : Option ω) {check : ω → Resolve ω}
    {list : Option ω → Resolve τ} (checks : ∀ f, Consults (check f))
    (lists : ∀ filter, Consults (list filter)) :
    Consults (do
      meter name
      let filter ← filter.mapM check
      list filter : Resolve τ) :=
  (consults_meter name).bind fun _ => (Stays.mapM_option checks filter).bind lists

theorem consults_agencies (args : RootArgs AgencyFilter) : Consults (agencies args) :=
  consults_within _ _ (fun _ => (consults_checkArea _ _).bind fun _ => .pure _ _)
    fun _ => consults_list ..

theorem consults_routes (args : RootArgs RouteFilter) : Consults (routes args) :=
  consults_within _ _ (fun _ => (consults_checkArea _ _).bind fun _ => .pure _ _)
    fun _ => consults_list ..

theorem consults_stops (args : RootArgs StopFilter) : Consults (stops args) :=
  consults_within _ _ (fun _ => (consults_checkArea _ _).bind fun _ => .pure _ _)
    fun _ => consults_list ..

theorem consults_vehiclePositions (limit : Option Int)
    (filter : Option VehiclePositionFilter) : Consults (vehiclePositions limit filter) :=
  consults_within _ _ (fun _ => (consults_checkArea _ _).bind fun _ => .pure _ _)
    fun _ => (consults_look _).bind fun _ => consults_look _

theorem consults_trips (args : RootArgs TripFilter) : Consults (trips args) :=
  (consults_meter _).bind fun _ => consults_list ..

theorem consults_feeds (args : RootArgs FeedFilter) : Consults (feeds args) :=
  (consults_meter _).bind fun _ => consults_list ..

theorem consults_feedVersions (args : RootArgs FeedVersionFilter) :
    Consults (feedVersions args) :=
  (consults_meter _).bind fun _ => consults_list ..

theorem consults_operators (args : RootArgs OperatorFilter) : Consults (operators args) :=
  (consults_meter _).bind fun _ => consults_list ..

theorem consults_censusDatasets (args : RootArgs CensusDatasetFilter) :
    Consults (censusDatasets args) :=
  (consults_meter _).bind fun _ => consults_list ..

theorem consults_places (limit : Option Int) (level : Option PlaceLevel)
    (filter : Option PlaceFilter) : Consults (places limit level filter) :=
  (consults_meter _).bind fun _ => (consults_look _).bind fun _ => consults_ask _ _

theorem consults_bikes (limit : Option Int) (request : BikeRequest) :
    Consults (bikes limit request) :=
  (consults_meter _).bind fun _ => (consults_checkArea _ _).bind fun _ =>
    (consults_look _).bind fun _ => consults_ask _ _

theorem consults_docks (limit : Option Int) (request : DockRequest) :
    Consults (docks limit request) :=
  (consults_meter _).bind fun _ => (consults_checkArea _ _).bind fun _ =>
    (consults_look _).bind fun _ => consults_ask _ _

end Root

end Transit
