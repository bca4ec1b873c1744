import Mathlib.Data.List.Basic
import Transit.Proofs.Gateway.Consulting
import Transit.Proofs.Loader.Cache
import Transit.Selection.Realtime
set_option autoImplicit false

/-!
# Selections that consult the warehouse

Every field of every kind of row, every root selection that is not a command, and every look-up
consults the warehouse and does nothing else (`Entity.consults_select`, `RootSelection.reads_all`,
`RootSelection.reads_realtime`, `RootSelection.reads_lookups`).
-/

namespace Transit

open Gateway (Consulted lasting_consulted)

/-! ## Arguments and answers -/

namespace Select

variable {α : Type} {R : Gateway → Gateway → Prop}

theorem stays_task {t : Task α} (within : t.Within R) : Stays R (task t) :=
  ⟨within.bind fun _ => trivial⟩

theorem stays_change {f : Gateway → Gateway} (steps : ∀ g, R g (f g)) : Stays R (change f) :=
  stays_task (Task.within_change steps)

theorem stays_ofRead (R : Gateway → Gateway → Prop) (read : Option α) : Stays R (ofRead read) :=
  ⟨trivial⟩

theorem stays_ofField {r : Resolve α} (stays : Stays R r) : Stays R (ofField r) := by
  refine ⟨stays.within.bind fun answer => ?_⟩
  cases answer <;> trivial

theorem consults_look (view : Gateway → α) : Consults (look view) :=
  stays_task (Task.within_look lasting_consulted view)

theorem consults_ofLookup {t : Task (Except LookupError α)} (consults : t.Consults) :
    Consults (ofLookup t) := by
  refine ⟨consults.bind fun answer => ?_⟩
  cases answer <;> trivial

end Select

open Select

namespace Args

variable {α : Type} {R : Gateway → Gateway → Prop} (args : Args) (read : Json → Option α)
  (name : String)

theorem stays_required : Stays R (args.required read name) := stays_ofRead R _

theorem stays_optional : Stays R (args.optional read name) := stays_ofRead R _

theorem stays_withDefault (absent : α) : Stays R (args.withDefault read name absent) :=
  (args.stays_optional read name).bind fun _ => .pure _ _

theorem stays_limit : Stays R args.limit := args.stays_optional _ _

end Args

/-! ## Fields of rows -/

/-- A field of rows that consults the warehouse and does nothing else. -/
def Selection.Reads {α : Type} (selection : Selection α) : Prop :=
  ∀ a args, Consults (selection a args)

namespace Selection

variable {α β ω : Type} {write : β → Json} {read : Json → Option ω}

theorem reads_plain (view : α → Json) : (plain view).Reads :=
  fun _ _ => .pure _ _

theorem reads_simple {field : α → Resolve β} (fields : ∀ a, Consults (field a)) :
    (simple write field).Reads :=
  fun a _ => (stays_ofField (fields a)).bind fun _ => .pure _ _

theorem reads_limited {field : α → Option Int → Resolve β}
    (fields : ∀ a limit, Consults (field a limit)) : (limited write field).Reads :=
  fun a args => args.stays_limit.bind fun limit => (stays_ofField (fields a limit)).bind fun _ =>
    .pure _ _

theorem reads_filtered {field : α → Option Int → Option ω → Resolve β}
    (fields : ∀ a limit filter, Consults (field a limit filter)) :
    (filtered write read field).Reads :=
  fun a args => args.stays_limit.bind fun limit => (args.stays_optional _ _).bind fun filter =>
    (stays_ofField (fields a limit filter)).bind fun _ => .pure _ _

theorem reads_alerts {field : α → Option Bool → Option Int → Resolve (List Alert)}
    (fields : ∀ a active limit, Consults (field a active limit)) : (alerts field).Reads :=
  fun a args => (args.stays_optional _ _).bind fun active => args.stays_limit.bind fun limit =>
    (stays_ofField (fields a active limit)).bind fun _ => .pure _ _

end Selection

namespace StopTime

variable {α ω : Type}

theorem consults_part (write : α → Json) {r : Resolve α} (consults : Consults r) :
    Consults (part write r) :=
  have answers : (ofField (r >>= fun a => Pure.pure (write a))).answer.Consults :=
    (stays_ofField (consults.bind fun _ => .pure _ _)).within
  stays_task (answers.bind fun _ => Task.within_pure _ _)

theorem consults_expanded (r : StopTime) : Consults r.expanded :=
  (consults_part _ r.consults_trip).bind fun _ =>
    (consults_part _ r.consults_arrival).bind fun _ =>
    (consults_part _ r.consults_departure).bind fun _ =>
    (consults_part _ r.consults_scheduleRelationship).bind fun _ => .pure _ _

theorem consults_rowsDisplay (rows : List StopTime) (args : Args) : Consults (display rows args) := by
  refine (args.stays_withDefault _ _ _).bind fun expand => ?_
  split
  · exact (Stays.mapM consults_expanded rows).bind fun _ => .pure _ _
  · exact .pure _ _

theorem reads_selection {read : Json → Option ω}
    {field : α → Option Int → Option ω → Resolve (List StopTime)}
    (fields : ∀ a limit filter, Consults (field a limit filter)) : (selection read field).Reads :=
  fun a args => args.stays_limit.bind fun limit => (args.stays_optional _ _).bind fun filter =>
    (stays_ofField (fields a limit filter)).bind fun rows => consults_rowsDisplay rows args

end StopTime

theorem consults_givenRow {α : Type} (read : Json → Option α) (args : Args) :
    Consults (givenRow read args) :=
  args.stays_required read "obj"

theorem consults_loadedRow (r : Reference) (read : Json → Option r.Row) (idName : String)
    (args : Args) : Consults (loadedRow r read idName args) := by
  refine (args.stays_optional read "obj").bind fun given => ?_
  split
  · exact .pure _ _
  · refine (args.stays_required _ _).bind fun id => ?_
    have loads : (Task.load (.one r) [id] fun values =>
        .done (values.headD (.error .cancelled))).Consults := fun _ => trivial
    refine (stays_task loads).bind fun loaded => ?_
    split
    · exact .pure _ _
    · exact .throw _ _
    · exact .throw _ _

namespace Entity

open Selection Resolve

/-- However a row of the kind is found and whichever of its fields is selected, the warehouse is
consulted and nothing else is done. -/
structure Reads (e : Entity) : Prop where
  row : ∀ args, Consults (e.row args)
  fields : e.fields.Forall fun named => named.2.Reads

theorem Reads.select {e : Entity} (reads : e.Reads) (field : String) (args : Args) :
    Consults (e.select field args) := by
  refine (reads.row args).bind fun row => ?_
  cases known : e.fields.lookup field with
  | none => exact .throw _ _
  | some selection =>
    have member := Loader.mem_of_lookup known
    exact List.forall_iff_forall_mem.mp reads.fields (field, selection) member row args

theorem reads_agency : agency.Reads where
  row _ := consults_loadedRow ..
  fields := ⟨reads_plain _, reads_plain _,
    reads_filtered fun _ _ _ => consults_rows ..,
    reads_simple fun _ => consults_row ..,
    reads_filtered fun _ _ _ => consults_rows ..,
    reads_simple fun _ => consults_row ..,
    reads_filtered fun _ _ _ => consults_rows ..,
    reads_alerts fun _ _ _ => consults_alerts ..⟩

theorem reads_stopBuffer : stopBuffer.Reads :=
  fun _ args => (args.stays_optional _ _).bind fun _ => (stays_ofField (consults_ask _ _)).bind
    fun _ => .pure _ _

theorem reads_route : route.Reads where
  row _ := consults_loadedRow ..
  fields := ⟨reads_plain _, reads_plain _,
    reads_simple fun _ => consults_row ..,
    reads_simple fun _ => consults_row ..,
    reads_filtered fun _ _ _ => consults_rows ..,
    reads_filtered fun _ _ _ => consults_rows ..,
    reads_limited fun _ _ => consults_rows ..,
    reads_limited fun _ _ => consults_rows ..,
    reads_simple fun _ => consults_rows ..,
    reads_limited fun _ _ => consults_rows ..,
    reads_simple Route.consults_geometry,
    reads_stopBuffer,
    reads_filtered fun _ _ _ => consults_rows ..,
    reads_alerts fun _ _ _ => consults_alerts ..⟩

theorem reads_routeStop : routeStop.Reads where
  row _ := consults_givenRow ..
  fields := ⟨reads_simple fun _ => consults_row .., reads_simple fun _ => consults_row ..,
    reads_simple fun _ => consults_row ..⟩

theorem reads_routeHeadway : routeHeadway.Reads where
  row _ := consults_givenRow ..
  fields := ⟨reads_simple fun _ => consults_row .., reads_plain _⟩

theorem reads_routeStopPattern : routeStopPattern.Reads where
  row _ := consults_givenRow ..
  fields := reads_limited fun _ _ => consults_rows ..

theorem reads_nearbyStops : nearbyStops.Reads :=
  fun s args => args.stays_limit.bind fun _ => (args.stays_optional _ _).bind fun _ =>
    (stays_ofField (s.consults_nearbyStops _ _)).bind fun _ => .pure _ _

theorem reads_stop : stop.Reads where
  row _ := consults_loadedRow ..
  fields := ⟨reads_plain _, reads_plain _,
    reads_simple fun _ => consults_row ..,
    reads_simple fun _ => consults_reference ..,
    reads_simple fun _ => consults_reference ..,
    reads_limited fun _ _ => consults_rows ..,
    reads_limited fun _ _ => consults_rows ..,
    reads_limited fun _ _ => consults_rows ..,
    reads_limited fun _ _ => consults_rows ..,
    reads_limited fun _ _ => consults_rows ..,
    reads_simple fun _ => consults_row ..,
    reads_filtered fun _ _ _ => consults_rows ..,
    reads_alerts fun _ _ _ => consults_alerts ..,
    reads_nearbyStops,
    StopTime.reads_selection Stop.consults_stopTimes,
    StopTime.reads_selection Stop.consults_departures,
    StopTime.reads_selection Stop.consults_arrivals⟩

theorem reads_stopExternalReference : stopExternalReference.Reads where
  row _ := consults_givenRow ..
  fields := reads_simple StopExternalReference.consults_targetActiveStop

theorem reads_level : level.Reads where
  row _ := consults_loadedRow ..
  fields := ⟨reads_plain _, reads_limited fun _ _ => consults_rows ..⟩

theorem reads_pathway : pathway.Reads where
  row _ := consults_loadedRow ..
  fields := ⟨reads_plain _, reads_simple fun _ => consults_row ..,
    reads_simple fun _ => consults_row ..⟩

theorem reads_trip : trip.Reads where
  row _ := consults_loadedRow ..
  fields := ⟨reads_plain _, reads_plain _,
    reads_simple fun _ => consults_row ..,
    reads_simple fun _ => consults_row ..,
    reads_simple fun _ => consults_reference ..,
    reads_simple fun _ => consults_row ..,
    StopTime.reads_selection fun _ _ _ => consults_rows ..,
    reads_limited fun _ _ => consults_rows ..,
    reads_simple Trip.consults_scheduleRelationship,
    reads_simple Trip.consults_timestamp,
    reads_alerts fun _ _ _ => consults_alerts ..⟩

theorem reads_stopTime : stopTime.Reads where
  row _ := consults_givenRow ..
  fields := ⟨reads_simple fun _ => consults_row .., reads_simple StopTime.consults_trip,
    reads_simple StopTime.consults_arrival, reads_simple StopTime.consults_departure,
    reads_simple StopTime.consults_scheduleRelationship⟩

theorem reads_calendar : calendar.Reads where
  row _ := consults_loadedRow ..
  fields := ⟨reads_plain _, reads_limited fun c _ => c.consults_exceptions ..,
    reads_limited fun c _ => c.consults_exceptions ..⟩

theorem reads_feed : feed.Reads where
  row _ := consults_loadedRow ..
  fields := ⟨reads_plain _, reads_plain _,
    reads_simple fun _ => consults_row ..,
    reads_filtered fun _ _ _ => consults_rows ..,
    reads_filtered fun _ _ _ => consults_rows ..,
    reads_simple fun _ => consults_rows ..,
    reads_alerts Feed.consults_alerts⟩

theorem reads_feedState : feedState.Reads where
  row _ := consults_givenRow ..
  fields := reads_simple fun _ => consults_reference ..

theorem reads_feedVersion : feedVersion.Reads where
  row _ := consults_loadedRow ..
  fields := ⟨reads_plain _, reads_plain _,
    reads_simple fun _ => consults_row ..,
    reads_filtered fun _ _ _ => consults_rows ..,
    reads_filtered fun _ _ _ => consults_rows ..,
    reads_filtered fun _ _ _ => consults_rows ..,
    reads_filtered fun _ _ _ => consults_rows ..,
    reads_simple fun _ => consults_row ..,
    reads_filtered fun _ _ _ => consults_rows ..,
    reads_limited fun _ _ => consults_rows ..,
    reads_simple fun _ => consults_row ..,
    reads_simple FeedVersion.consults_effectiveServiceWindow⟩

theorem reads_operator : operator.Reads where
  row _ := consults_loadedRow ..
  fields := ⟨reads_plain _, reads_plain _, reads_simple fun _ => consults_rows ..,
    reads_filtered fun _ _ _ => consults_rows ..⟩

theorem reads_censusDataset : censusDataset.Reads where
  row _ := consults_givenRow ..
  fields := reads_filtered fun _ _ _ => consults_rows ..

theorem reads_censusValues : censusValues.Reads :=
  fun _ args => (args.stays_required _ _).bind fun _ => args.stays_limit.bind fun _ =>
    (stays_ofField (consults_rows ..)).bind fun _ => .pure _ _

theorem reads_censusGeography : censusGeography.Reads where
  row _ := consults_givenRow ..
  fields := reads_censusValues

theorem reads_censusValue : censusValue.Reads where
  row _ := consults_givenRow ..
  fields := reads_simple fun _ => consults_row ..

theorem reads_censusTable : censusTable.Reads where
  row _ := consults_loadedRow ..
  fields := ⟨reads_plain _, reads_limited fun _ _ => consults_rows ..⟩

/-- Whatever is selected of a row, the warehouse is consulted and nothing else is done. -/
theorem consults_select {e : Entity} (known : e ∈ all) (field : String) (args : Args) :
    Consults (e.select field args) := by
  have reads : all.Forall Reads := ⟨reads_agency, reads_route, reads_routeStop, reads_routeHeadway,
    reads_routeStopPattern, reads_stop, reads_stopExternalReference, reads_level, reads_pathway,
    reads_trip, reads_stopTime, reads_calendar, reads_feed, reads_feedState, reads_feedVersion,
    reads_operator, reads_censusDataset, reads_censusGeography, reads_censusValue,
    reads_censusTable⟩
  exact (List.forall_iff_forall_mem.mp reads e known).select field args

end Entity

/-! ## Root selections -/

/-- A selection without a row that consults the warehouse and does nothing else. -/
def RootSelection.Reads (selection : RootSelection) : Prop := ∀ args, Consults (selection args)

namespace RootSelection

variable {α ω τ : Type} {read : Json → Option ω} {write : τ → Json}

theorem reads_paged {list : RootArgs ω → Resolve (List τ)} (lists : ∀ root, Consults (list root)) :
    (paged write read list).Reads := by
  intro args
  have rootArgs : Consults (rootArgs read args) :=
    args.stays_limit.bind fun _ => (args.stays_optional _ _).bind fun _ =>
      (args.stays_withDefault _ _ _).bind fun _ => (args.stays_optional _ _).bind fun _ =>
      .pure _ _
  exact rootArgs.bind fun root => (stays_ofField (lists root)).bind fun _ => .pure _ _

theorem reads_limited {list : Option Int → Option ω → Resolve (List τ)}
    (lists : ∀ limit filter, Consults (list limit filter)) : (limited write read list).Reads :=
  fun args => args.stays_limit.bind fun limit => (args.stays_optional _ _).bind fun filter =>
    (stays_ofField (lists limit filter)).bind fun _ => .pure _ _

theorem reads_places : places.Reads :=
  fun args => (args.stays_optional _ _).bind fun level =>
    reads_limited (fun limit filter => Root.consults_places limit level filter) args

theorem reads_me : me.Reads :=
  fun _ => (stays_ofField Root.consults_me).bind fun _ => .pure _ _

/-- The listings, and the caller. -/
theorem reads_all : all.Forall fun named => named.2.Reads :=
  ⟨reads_paged Root.consults_agencies, reads_paged Root.consults_routes,
    reads_paged Root.consults_stops, reads_paged Root.consults_trips,
    reads_paged Root.consults_feeds, reads_paged Root.consults_feedVersions,
    reads_paged Root.consults_operators, reads_paged Root.consults_censusDatasets, reads_places,
    reads_limited Root.consults_vehiclePositions,
    reads_limited fun limit _ => Root.consults_bikes limit _,
    reads_limited fun limit _ => Root.consults_docks limit _, reads_me⟩

/-! ## Look-ups -/

theorem reads_findTrip : findTrip.Reads :=
  fun args => (Entity.reads_trip.row args).bind fun _ =>
    (consults_ofLookup (Task.consults_inSnapshot _ _)).bind fun _ => .pure _ _

theorem reads_makeTrip : makeTrip.Reads :=
  fun args => (args.stays_required _ _).bind fun _ => (args.stays_required _ _).bind fun _ =>
    (consults_ofLookup (Task.consults_addedTrip _ _)).bind fun _ => .pure _ _

theorem reads_findVisitUpdate : findVisitUpdate.Reads :=
  fun args => (Entity.reads_trip.row args).bind fun _ => (args.stays_required _ _).bind fun _ =>
    (consults_ofLookup (Task.consults_visitUpdate _ _)).bind fun _ => .pure _ _

theorem reads_addedTrips : addedTrips.Reads :=
  fun args => (Entity.reads_stop.row args).bind fun _ =>
    (consults_ofLookup (Task.consults_inSnapshot _ _)).bind fun _ => .pure _ _

theorem reads_snapshot : snapshot.Reads :=
  fun args => (args.stays_required _ _).bind fun _ =>
    (consults_ofLookup (Task.consults_inSnapshot _ _)).bind fun _ => .pure _ _

theorem reads_remembered {write : α → Json}
    {remember : (Warehouse → IdCache → Remembered α) → Task (Except LookupError α)}
    {lookup : Int → Warehouse → IdCache → Remembered α}
    (consults : ∀ id, (remember (lookup id)).Consults) :
    (remembered write remember lookup).Reads :=
  fun args => (args.stays_required _ _).bind fun id =>
    (consults_ofLookup (consults id)).bind fun _ => .pure _ _

theorem reads_stopZone
    {remember : (Warehouse → IdCache → Remembered (Option Zone)) →
      Task (Except LookupError (Option Zone))}
    (consults : ∀ id known, (remember (IdCache.stopZone id known)).Consults) :
    (stopZone remember).Reads :=
  fun args => (args.stays_withDefault _ _ _).bind fun known =>
    reads_remembered (fun id => consults id known) args

theorem reads_routeId : routeId.Reads :=
  fun args => (args.stays_required _ _).bind fun _ =>
    reads_remembered (fun _ => Task.consults_rememberBare _) args

theorem reads_realtime : realtime.Forall fun named => named.2.Reads :=
  ⟨reads_findTrip, reads_makeTrip, reads_remembered Task.consults_tripId, reads_findVisitUpdate,
    reads_addedTrips, reads_snapshot, reads_stopZone Task.consults_stopZone⟩

theorem reads_lookups : lookups.Forall fun named => named.2.Reads :=
  ⟨reads_remembered fun _ => Task.consults_rememberBare _,
    reads_remembered fun _ => Task.consults_rememberBare _,
    reads_remembered fun _ => Task.consults_rememberBare _, reads_routeId,
    reads_stopZone fun _ _ => Task.consults_rememberBare _⟩

end RootSelection

end Transit
