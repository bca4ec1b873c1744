import Transit.Proofs.Field.DateWindow
import Transit.Proofs.Field.Shown
import Transit.Proofs.Session.Moves
set_option autoImplicit false

/-!
# One zone for a stop

A display of a stop takes the zone from the record of the stop, its events take it from what is
found for the id of the stop. Both are the same zone as long as no edit changes what the warehouse
says of it (`Session.one_zone`). What is found by the id is remembered and never given up, so after
such an edit rows are displayed in one zone and their events are in another
(`Stop.events_keep_zone`).
-/

namespace Transit

open Gateway (lasting_steady)

theorem StopTimeEvent.stopTimezone_build (z : Zone) (serviceDate : Option Date)
    (scheduled : Option WideTime) (event : Option Realtime.TimeEvent) (lastDelay : Option Int) :
    (build z serviceDate scheduled event lastDelay).stopTimezone = z.name := by
  unfold build
  dsimp only
  split
  · rfl
  · split <;> rfl

namespace StopTime

variable {g : Gateway} {r : StopTime} {zone : Zone}

/-- The zone that is found for the stop of a row. The stop with id 0 has none. -/
theorem run_zone (r : StopTime) (g : Gateway) : ∃ next, r.zone.run.run g =
    (if r.stopId == 0 then .error .timezoneUnavailable
      else (g.zoneFound r.stopId).elim (.error .timezoneUnavailable) .ok, next) := by
  refine Resolve.run_of_answer ?_
  rw [zone, Resolve.run_bind, Resolve.run_on, Task.stopZone, Task.run_remember,
    IdCache.answer_stopZone, IdCache.stopZone?]
  cases r.stopId == 0 with
  | true => rfl
  | false =>
    have found : IdCache.zone? g.warehouse g.ids r.stopId = g.zoneFound r.stopId := rfl
    simp only [bne_self_eq_false, Bool.false_eq_true, if_false, found]
    cases g.zoneFound r.stopId <;> rfl

/-- The events of a row are in the zone that is found for its stop. -/
theorem event_in_zone (found : g.zoneFound r.stopId = some zone) (scheduled : Option WideTime)
    (pick : Realtime.StopTimeUpdate → Option Realtime.TimeEvent) :
    (r.stopId ≠ 0 → ∃ event next, (r.event scheduled pick).run.run g = (.ok event, next)) ∧
      ∀ event next, (r.event scheduled pick).run.run g = (.ok event, next) →
        event.stopTimezone = zone.name := by
  obtain ⟨zoned, answered⟩ := r.run_zone g
  rw [found, Option.elim_some] at answered
  constructor
  · intro named
    rw [beq_eq_false_iff_ne.mpr named] at answered
    exact ⟨_, zoned, Resolve.run_bind_of_ok answered⟩
  · intro event next ran
    obtain ⟨z, _, found, built⟩ := Resolve.run_bind_ok ran
    rw [answered, Prod.mk.injEq] at found
    split at found
    · cases found.1
    · obtain rfl := Except.ok.inj found.1
      obtain rfl := Except.ok.inj (Prod.mk.inj built).1
      exact StopTimeEvent.stopTimezone_build ..

end StopTime

namespace Stop

variable {s : Stop} {limit : Option Int} {filter : StopTimeFilter} {g last : Gateway}
  {rows : List StopTime}

/-- The rows that a filter admits, on the clock of a zone. -/
def displayIn (s : Stop) (zone : Zone) (limit : Option Int) (filter : StopTimeFilter) :
    Resolve (List StopTime) := do
  let (date, seconds) ← Resolve.look fun g => zone.localNow g.now
  let window ← s.windowFor filter
  let filter := filter.normalize ⟨date, seconds⟩ window
  let lookbehind ← Resolve.look (·.settings.lookbehind)
  let rows ← s.scheduled limit (filter.splitDays lookbehind)
  Resolve.checkCancelled
  let snapshot ← Resolve.on "stop_times" (Task.snapshot s.feedVersionId)
  let addedDate := (filter.date.or filter.serviceDate).or (some date)
  Resolve.on "stop_times" (Task.mergeStopTimes snapshot s zone rows addedDate)

theorem display_eq (s : Stop) (limit : Option Int) (filter : StopTimeFilter) :
    s.display limit filter = (do
      let some zone ← Resolve.on "stop_times" (Task.stopZone s.id s.stopTimezone)
        | throw .timezoneUnavailable
      s.displayIn zone limit filter) := rfl

/-- A display that succeeds has found a zone and goes on in it. -/
theorem display_in_zone (ran : (s.display limit filter).run.run g = (.ok rows, last)) :
    ∃ zone found, (Task.stopZone s.id s.stopTimezone).run g = (.ok (some zone), found) ∧
      IdCache.stopZone? g.warehouse g.ids s.id s.stopTimezone = some zone ∧
      (s.displayIn zone limit filter).run.run found = (.ok rows, last) := by
  rw [display_eq] at ran
  obtain ⟨answer, found, zones, ran⟩ := Resolve.run_bind_ok ran
  cases answer with
  | none => cases ran
  | some zone =>
    have zoned := Resolve.run_on_ok zones
    refine ⟨zone, found, zoned, ?_, ran⟩
    rw [Task.stopZone, Task.run_remember, Prod.mk.injEq, IdCache.answer_stopZone] at zoned
    exact Except.ok.inj zoned.1

/-- The rows that a stop displays, scheduled or not, are rows of the stop. -/
theorem stopId_of_displayed (fed : g.Fed)
    (ran : (s.display limit filter).run.run g = (.ok rows, last)) {r : StopTime}
    (member : r ∈ rows) : r.stopId = s.id := by
  obtain ⟨_, _, _, _, _, remembers, schedules, snapshot, zone, day, _, merges⟩ := display_ok ran
  rcases Task.mem_mergeStopTimes merges member with ⟨row, inScheduled, update, rfl⟩ | isAdded
  · obtain ⟨day, _, w, row, _, inRows, rfl⟩ :=
      scheduled_sound ((fed _).remembers remembers) trivial schedules inScheduled
    obtain ⟨_, _, here, _⟩ := Warehouse.mem_rowsAt.mp inRows
    have kept : (row.onDay day).stopId = row.stopId := by
      unfold StopTime.onDay
      split <;> rfl
    exact kept.trans here
  · rw [StopTime.addedRows_eq, List.mem_map] at isAdded
    obtain ⟨_, _, rfl⟩ := isAdded
    rfl

/-- The zone of the stop's record is what the warehouse says of the stop. -/
theorem zone_of_record {loaded : Gateway} {zone : Option Zone} (settled : g.Settled s.id zone)
    (record : loaded.warehouse.stop? s.id = some s) (same : loaded.zoneOf s.id = zone) {z : Zone}
    (found : IdCache.stopZone? g.warehouse g.ids s.id s.stopTimezone = some z) :
    zone = some z := by
  unfold IdCache.stopZone? at found
  split at found
  · next named =>
    rw [← same, ← found, Gateway.zoneOf, IdCache.zoneOfStop, record]
    exact congrArg Prod.fst (if_pos named)
  · split at found
    · cases found
    · exact settled.found.symm.trans found

/-- A display over a single row, without calls outside the schedule. -/
theorem display_of_single (active : g.Active) {zone : Zone}
    (zoned : IdCache.stopZone? g.warehouse g.ids s.id s.stopTimezone = some zone)
    {snapshot : Realtime.Snapshot} (messages : g.snapshotOf s.feedVersionId = .ok snapshot)
    (none : ∀ date, StopTime.addedRows snapshot s date = []) {row r : StopTime}
    (only : g.warehouse.stopTimes = [row])
    (selects : (((s.plainIn g zone filter).splitDays g.settings.lookbehind).flatMap fun day =>
      (([row].filter fun r => (r.feedVersionId == s.feedVersionId && r.stopId == s.id) &&
        (some day).all (g.warehouse.stopTimeMatches · r)).take (groupLimit limit)).map
          (·.onDay day)) = [r]) :
    ((s.display limit filter).run.run g).1 = .ok [g.overlay snapshot s r] := by
  have rows : s.selected g zone limit filter = [r] := by
    simp only [selected, rowsOfDays, Warehouse.rowsAt_of_single only, selects]
  rw [(display_ends s g limit filter).of_active active, shown, zoned, messages]
  have displays : s.shownOver g zone snapshot limit filter = [g.overlay snapshot s r] := by
    rw [shownOver, rows, Gateway.merged, none]
    exact StopTime.sorted_singleton zone _
  exact congrArg Except.ok displays

/-- A trip leaves the stop at 10:00:00, and an administrator makes requests. -/
def morning : Gateway :=
  (nightGateway [⟨17681⟩] [leaving 36000]).startRequest { roles := [Role.admin] }

def onDate : StopTimeFilter := { serviceDate := some ⟨17681⟩ }

end Stop

namespace Session

open Stop (nightStop leaving morning onDate)

/-- A display takes the zone from the record of the stop, and the events of its rows take it from
the stop's id. As long as edits leave the zone of the stop in the warehouse as it is, from before it
was first looked up, the events of all rows are in the zone in which the rows were selected and
sorted. Only the stop with id 0 has no zone by its id, so that its rows have no events. -/
theorem one_zone {g loaded shown last now : Gateway} {s : Stop}
    (fresh : g.ids.stopZones.lookup s.id = none) (fed : g.Fed)
    (before : Undisturbed s.id g loaded) (record : loaded.warehouse.stop? s.id = some s)
    (until_shown : Undisturbed s.id loaded shown) {limit : Option Int}
    {filter : Option StopTimeFilter} {rows : List StopTime}
    (displays : (s.stopTimes limit filter).run.run shown = (.ok rows, last))
    (later : Undisturbed s.id last now) :
    ∃ zone found, (Task.stopZone s.id s.stopTimezone).run shown = (.ok (some zone), found) ∧
      (s.displayIn zone limit (filter.getD {})).run.run found = (.ok rows, last) ∧
      ∀ r ∈ rows, ∀ side ∈ [StopTime.arrival, StopTime.departure],
        (s.id ≠ 0 → ∃ event next, (side r).run.run now = (.ok event, next)) ∧
          ∀ event next, (side r).run.run now = (.ok event, next) →
            event.stopTimezone = zone.name := by
  obtain ⟨zone, found, zones, chosen, ran⟩ := Stop.display_in_zone displays
  refine ⟨zone, found, zones, ran, ?_⟩
  have settledLoaded := before.settled (Gateway.settled_of_fresh fresh fed)
  have settledShown := until_shown.settled settledLoaded
  have isZone := Stop.zone_of_record settledShown record settledLoaded.known chosen
  have displayed := (s.consults_stopTimes limit filter).steady.run lasting_steady shown
  rw [displays] at displayed
  have settled := later.settled (settledShown.steady displayed)
  rw [isZone] at settled
  intro r member
  have here := Stop.stopId_of_displayed settledShown.fed displays member
  rw [← here] at settled ⊢
  intro side either
  rcases List.mem_pair.mp either with rfl | rfl
  · exact StopTime.event_in_zone settled.found _ _
  · exact StopTime.event_in_zone settled.found _ _

/-- The stop gets a name. -/
def rename : Move := .alone
  ⟨"mutation.stop_update", ⟨[("input", .obj [("id", .int 7), ("stop_name", .str "Main")])]⟩⟩

def renamedStop : Stop := { nightStop with stopName := "Main" }

def freshRequest : Move := .alone ⟨"new_request", ⟨[]⟩⟩

theorem quiet_freshRequest : freshRequest.Quiet := by
  intro call member
  obtain rfl := List.mem_singleton.mp member
  rintro ⟨command, _, split⟩
  have none : (none : Option String) = some command := congrArg Prod.snd split
  cases none

/-- The stop is displayed under its new name, and the row's departure is resolved by the next
request. -/
theorem one_zone_of_rename :
    let row := (leaving 36000).stamp ⟨17681⟩
    let loaded := rename.after morning
    morning.ids.stopZones.lookup renamedStop.id = none ∧ morning.Fed ∧
      Undisturbed renamedStop.id morning loaded ∧
      loaded.warehouse.stop? renamedStop.id = some renamedStop ∧
      ∃ rows last, (renamedStop.stopTimes none (some onDate)).run.run loaded = (.ok rows, last) ∧
        Undisturbed renamedStop.id last (freshRequest.after last) ∧ row ∈ rows ∧
        ∃ event next, row.departure.run.run (freshRequest.after last) = (.ok event, next) ∧
          event.stopTimezone = "UTC" := by
  intro row loaded
  have fed : morning.Fed := Gateway.fed_startRequest _ _
  have before : Undisturbed renamedStop.id morning loaded := .move .start (.inl ⟨_, rfl⟩) rfl
  have record : loaded.warehouse.stop? renamedStop.id = some renamedStop := rfl
  have active : loaded.Active := Gateway.active_startRequest loaded { roles := [Role.admin] }
  have zoned : IdCache.stopZone? loaded.warehouse loaded.ids renamedStop.id
      renamedStop.stopTimezone = some ⟨"UTC", 0, []⟩ := rfl
  have shown : ((renamedStop.stopTimes none (some onDate)).run.run loaded).1 = .ok [row] :=
    Stop.display_of_single active zoned rfl (fun _ => rfl) rfl rfl
  obtain ⟨last, displays⟩ := Resolve.run_of_answer shown
  have later : Undisturbed renamedStop.id last (freshRequest.after last) :=
    Undisturbed.start.quiet quiet_freshRequest
  obtain ⟨zone, _, zones, _, events⟩ := one_zone rfl fed before record .start displays later
  obtain ⟨resolves, inZone⟩ := events row (List.mem_singleton_self row) StopTime.departure (by simp)
  obtain ⟨event, next, resolved⟩ := resolves (by decide)
  refine ⟨rfl, fed, before, record, [row], last, displays, later, List.mem_singleton_self row, event,
    next, resolved, ?_⟩
  have found := (Prod.mk.inj zones).1
  rw [inZone event next resolved]
  cases found
  rfl

end Session

namespace Stop

/-- The stop after its move to another zone. -/
def movedStop : Stop := { nightStop with stopTimezone := "Asia/Tokyo" }

/-- Once an event of a row has been resolved, the zone of its stop is remembered. The stop is then
moved to another zone: the next request displays the row in that zone, and resolves its events in
the zone before. -/
theorem events_keep_zone :
    let row := (leaving 36000).stamp ⟨17681⟩
    let first := row.departure.run.run morning
    let input : StopSetInput := { id := some 7, stopTimezone := some "Asia/Tokyo" }
    let edit := (Command.updateStop input).run.run first.2
    morning.ids.stopZones.lookup 7 = none ∧ morning.Fed ∧
      ∃ s zone found rows last event next,
        edit.1 = .ok s ∧
          (s.stopTimes none (some onDate)).run.run (edit.2.startRequest {}) = (.ok rows, last) ∧
          (Task.stopZone s.id s.stopTimezone).run (edit.2.startRequest {}) =
            (.ok (some zone), found) ∧
          (s.displayIn zone none onDate).run.run found = (.ok rows, last) ∧
          row ∈ rows ∧ row.departure.run.run last = (.ok event, next) ∧
          event.stopTimezone ≠ zone.name := by
  intro row first input edit
  let utc : Zone := ⟨"UTC", 0, []⟩
  let g : Gateway := edit.2.startRequest {}
  have edited : edit.1 = .ok movedStop := rfl
  have active : g.Active := Gateway.active_startRequest edit.2 {}
  have zoned : IdCache.stopZone? g.warehouse g.ids movedStop.id movedStop.stopTimezone =
      some Zone.tokyo := rfl
  have shown : ((movedStop.stopTimes none (some onDate)).run.run g).1 = .ok [row] :=
    display_of_single active zoned rfl (fun _ => rfl) rfl rfl
  obtain ⟨last, displays⟩ := Resolve.run_of_answer shown
  obtain ⟨zone, found, zones, chosen, ran⟩ := display_in_zone displays
  obtain rfl := Option.some.inj (zoned.symm.trans chosen)
  have remembered : g.zoneFound row.stopId = some utc := rfl
  have kept := (movedStop.consults_stopTimes none (some onDate)).steady.run lasting_steady g
  rw [displays] at kept
  obtain ⟨resolves, inZone⟩ := StopTime.event_in_zone ((kept.found row.stopId).trans remembered)
    row.departureTime fun u => u.departure.or u.arrival
  obtain ⟨event, next, resolved⟩ := resolves (by decide)
  refine ⟨rfl, Gateway.fed_startRequest _ _, movedStop, Zone.tokyo, found, [row], last, event, next,
    edited, displays, zones, ran, List.mem_singleton_self row, resolved, ?_⟩
  rw [inZone event next resolved]
  decide

end Stop

end Transit
