import Transit.Proofs.Field.Display
import Transit.Proofs.Gateway.Outcome
set_option autoImplicit false

/-!
# What a stop shows

As long as its request goes on, a stop displays what `Stop.shown` says: the rows that the warehouse
holds for each service day up to the limit, overlaid with updates, and the rows of all calls outside
the schedule, in the order in which they leave (`display_ends`).
-/

namespace Transit

namespace Gateway

/-- The messages of all feeds that bear on a feed version. -/
def snapshotOf (g : Gateway) (version : Int) : Except LookupError Realtime.Snapshot :=
  (IdCache.feeds? g.warehouse g.ids version).map fun feeds => ⟨feeds.map g.sourcesOf⟩

/-- The GTFS id of a row's trip, if the trip is in the schedule. -/
def rowTripId? (g : Gateway) (r : StopTime) : Option String :=
  if r.tripId == StopTime.addedTripId then none else IdCache.tripId? g.warehouse g.ids r.tripId

/-- A scheduled row with the update that belongs to its call. -/
def overlay (g : Gateway) (snapshot : Realtime.Snapshot) (s : Stop) (r : StopTime) : StopTime :=
  if snapshot.isEmpty then r else r.attach snapshot s (g.rowTripId? r)

theorem overlay_eq (g : Gateway) (snapshot : Realtime.Snapshot) (s : Stop) (r : StopTime) :
    ∃ update, g.overlay snapshot s r = { r with update } := by
  unfold overlay
  split
  · exact ⟨r.update, rfl⟩
  · exact StopTime.attach_eq snapshot s r _

/-- Scheduled rows with their updates and the rows of calls outside the schedule, in the order in
which they leave. -/
def merged (g : Gateway) (snapshot : Realtime.Snapshot) (s : Stop) (z : Zone)
    (rows : List StopTime) (addedDate : Option Date) : List StopTime :=
  StopTime.sorted z (rows.map (g.overlay snapshot s) ++ StopTime.addedRows snapshot s addedDate)

theorem Alike.sourcesOf {g h : Gateway} (alike : g.Alike h) : h.sourcesOf = g.sourcesOf := by
  funext feed
  rw [Gateway.sourcesOf, alike.topics]
  rfl

end Gateway

namespace Task

variable {g : Gateway}

theorem ends_readFeeds (g : Gateway) (feeds : List String) :
    (readFeeds feeds).Ends g (feeds.map g.sourcesOf) := by
  induction feeds with
  | nil => exact ends_pure [] g
  | cons feed rest ih =>
    have read : (look (·.sourcesOf feed)).Ends g (g.sourcesOf feed) :=
      ends_look fun _ alike => congrFun alike.sourcesOf feed
    exact read.bind (ih.bind (ends_pure _ g))

theorem ends_snapshot (g : Gateway) (version : Int) :
    (snapshot version).Ends g (g.snapshotOf version) := by
  have found := ends_remember (g := g) (IdCache.remembers_feeds version)
  rw [IdCache.answer_feeds] at found
  refine found.bind ?_
  unfold Gateway.snapshotOf
  cases IdCache.feeds? g.warehouse g.ids version with
  | error e => exact ends_pure _ g
  | ok feeds => exact (ends_readFeeds g feeds).bind (ends_pure _ g)

theorem ends_stopZone (g : Gateway) (id : Int) (known : String) :
    (stopZone id known).Ends g (.ok (IdCache.stopZone? g.warehouse g.ids id known)) := by
  rw [← IdCache.answer_stopZone]
  exact ends_remember (IdCache.remembers_stopZone id known)

theorem ends_tripId (g : Gateway) (id : Int) :
    (remember (IdCache.tripId id)).Ends g (.ok (IdCache.tripId? g.warehouse g.ids id)) := by
  rw [← IdCache.answer_tripId]
  exact ends_remember (IdCache.remembers_tripId id)

theorem ends_routeId (g : Gateway) (version : Int) (id : String) :
    (remember (IdCache.routeId version id)).Ends g
      (.ok (IdCache.routeId? g.warehouse g.ids version id)) := by
  rw [← IdCache.answer_routeId]
  exact ends_remember (IdCache.remembers_routeId version id)

theorem ends_tripIdsOf (g : Gateway) (rows : List StopTime) :
    (tripIdsOf rows).Ends g (.ok (rows.map fun r => (r, g.rowTripId? r))) := by
  induction rows with
  | nil => exact ends_pure _ g
  | cons row rest ih =>
    rw [tripIdsOf, List.map_cons, Gateway.rowTripId?]
    split
    · exact ih.bind (ends_pure _ g)
    · exact (ends_tripId g row.tripId).bind (ih.bind (ends_pure _ g))

theorem ends_mergeStopTimes (g : Gateway) (snapshot : Realtime.Snapshot) (s : Stop) (z : Zone)
    (rows : List StopTime) (addedDate : Option Date) :
    (mergeStopTimes snapshot s z rows addedDate).Ends g
      (.ok (g.merged snapshot s z rows addedDate)) := by
  unfold mergeStopTimes Gateway.merged Gateway.overlay
  cases empty : snapshot.isEmpty with
  | true =>
    rw [StopTime.addedRows_of_isEmpty empty, List.append_nil]
    simp only [if_true, List.map_id']
    exact ends_pure _ g
  | false =>
    refine (ends_tripIdsOf g rows).bind ?_
    simp only [StopTime.merge, List.map_map]
    exact ends_pure _ g

end Task

namespace StopTimeFilter

/-- The date of rows outside the schedule. -/
def addedDate (plain : StopTimeFilter) (today : Date) : Option Date :=
  (plain.date.or plain.serviceDate).or (some today)

end StopTimeFilter

namespace Stop

/-- A filter in plain terms, on the clock of a zone. -/
def plainIn (s : Stop) (g : Gateway) (zone : Zone) (filter : StopTimeFilter) : StopTimeFilter :=
  filter.normalize ⟨(zone.localNow g.now).1, (zone.localNow g.now).2⟩ (s.windowOf g filter)

/-- The rows of some service days, each day's up to the limit. -/
def rowsOfDays (s : Stop) (w : Warehouse) (limit : Option Int) (days : List StopTimeFilter) :
    List StopTime :=
  days.flatMap fun day =>
    ((w.rowsAt (s.feedVersionId, s.id) (some day)).take (groupLimit limit)).map (·.onDay day)

def selected (s : Stop) (g : Gateway) (zone : Zone) (limit : Option Int)
    (filter : StopTimeFilter) : List StopTime :=
  s.rowsOfDays g.warehouse limit ((s.plainIn g zone filter).splitDays g.settings.lookbehind)

/-- What a stop displays over the messages of its feeds. -/
def shownOver (s : Stop) (g : Gateway) (zone : Zone) (snapshot : Realtime.Snapshot)
    (limit : Option Int) (filter : StopTimeFilter) : List StopTime :=
  g.merged snapshot s zone (s.selected g zone limit filter)
    ((s.plainIn g zone filter).addedDate (zone.localNow g.now).1)

def shown (s : Stop) (g : Gateway) (limit : Option Int) (filter : StopTimeFilter) :
    Except FieldError (List StopTime) :=
  match IdCache.stopZone? g.warehouse g.ids s.id s.stopTimezone with
  | none => .error .timezoneUnavailable
  | some zone => do
    let snapshot ← (g.snapshotOf s.feedVersionId).mapError (.ofLookup "stop_times")
    return s.shownOver g zone snapshot limit filter

theorem ends_windowFor (s : Stop) (g : Gateway) (filter : StopTimeFilter) :
    (s.windowFor filter).Ends g (.ok (s.windowOf g filter)) := by
  unfold windowFor windowOf
  split
  · exact Resolve.ends_on _ (Task.ends_serviceWindow s.feedVersionId g)
  · exact Task.ends_pure _ g

theorem ends_scheduled (s : Stop) (g : Gateway) (limit : Option Int) (days : List StopTimeFilter) :
    (s.scheduled limit days).Ends g (.ok (s.rowsOfDays g.warehouse limit days)) := by
  refine Task.ends_load separate_stopTimesByStop ?_
  have stamped : stampDays (days.zip ((s.dayKeys limit days).map fun key =>
      LoadError.ofEntry (g.warehouse.stopTimesOf key))) =
      .ok (s.rowsOfDays g.warehouse limit days) := by
    rw [dayKeys, List.map_map, ← List.map_prod_left_eq_zip]
    exact stampDays_of_ok days _
  rw [stamped]
  exact Task.ends_pure _ g

theorem display_ends (s : Stop) (g : Gateway) (limit : Option Int) (filter : StopTimeFilter) :
    (s.display limit filter).Ends g (s.shown g limit filter) := by
  have zones := Resolve.ends_on "stop_times" (Task.ends_stopZone g s.id s.stopTimezone)
  refine Resolve.Ends.bind_ok zones ?_
  unfold shown
  cases IdCache.stopZone? g.warehouse g.ids s.id s.stopTimezone with
  | none => exact Task.ends_pure _ g
  | some zone =>
    have clock : (Resolve.look fun h => zone.localNow h.now).Ends g (.ok (zone.localNow g.now)) :=
      Resolve.ends_look fun _ alike => by rw [alike.now]
    have lookbehind : (Resolve.look (·.settings.lookbehind)).Ends g (.ok g.settings.lookbehind) :=
      Resolve.ends_look fun _ alike => by rw [alike.settings]
    refine clock.bind_ok (.bind_ok (ends_windowFor s g filter) (lookbehind.bind_ok ?_))
    refine .bind_ok (ends_scheduled s g limit _) (.bind_ok (Resolve.ends_checkCancelled g) ?_)
    have shoots := Resolve.ends_on "stop_times" (Task.ends_snapshot g s.feedVersionId)
    refine shoots.bind fun snapshot _ => ?_
    exact Resolve.ends_on "stop_times" (Task.ends_mergeStopTimes g snapshot s zone
      (s.selected g zone limit filter)
      ((s.plainIn g zone filter).addedDate (zone.localNow g.now).1))

end Stop

end Transit
