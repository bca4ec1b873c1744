import Transit.Proofs.Field.OneZone
import Transit.Proofs.Http.Views
import Transit.Proofs.Realtime.Lookups
set_option autoImplicit false

/-!
# The estimates of canceled rows

A row is canceled by the entry of its own call or by the update of its trip. Its arrival and its
departure are worked out without regard to either: they report the schedule, and an estimate
whenever the entry has a time or a delay or an earlier entry has a delay
(`Stop.canceled_unestimated_iff`). So a canceled trip may keep its estimates
(`Stop.canceled_with_estimate`).
-/

namespace Transit

open Realtime

namespace StopTimeEvent

variable {z : Zone} {serviceDate : Option Date} {scheduled : Option WideTime}
  {event : Option TimeEvent} {lastDelay : Option Int}

/-- The event reports a scheduled time, in each of its forms. -/
structure Reports (e : StopTimeEvent) (z : Zone) (serviceDate : Option Date)
    (scheduled : Option WideTime) : Prop where
  zone : e.stopTimezone = z.name
  clock : e.scheduled = scheduled
  utc : e.scheduledUtc = (scheduledAt? z serviceDate scheduled).map (·.instant)
  unix : e.scheduledUnix = (scheduledAt? z serviceDate scheduled).map (·.instant.seconds)
  zoned : e.scheduledLocal = scheduledAt? z serviceDate scheduled

/-- The event has no estimate in any form. -/
structure Unestimated (e : StopTimeEvent) : Prop where
  clock : e.estimated = none
  utc : e.estimatedUtc = none
  unix : e.estimatedUnix = none
  zoned : e.estimatedLocal = none

/-- Realtime data gives no time that can be represented, and no delay by which the schedule can be
shifted. -/
structure Silent (z : Zone) (serviceDate : Option Date) (scheduled : Option WideTime)
    (event : Option TimeEvent) (lastDelay : Option Int) : Prop where
  timeless : (event.bind (·.time)).bind Instant.ofUnix? = none
  unshifted : ∀ seconds, (event.bind (·.delay)).or lastDelay = some seconds →
    scheduled.bind (·.addSeconds? seconds) = none ∧
      (scheduledAt? z serviceDate scheduled).bind (shift? z · seconds) = none

theorem reports_build (z : Zone) (serviceDate : Option Date) (scheduled : Option WideTime)
    (event : Option TimeEvent) (lastDelay : Option Int) :
    (build z serviceDate scheduled event lastDelay).Reports z serviceDate scheduled := by
  unfold build
  dsimp only
  split
  · exact ⟨rfl, rfl, rfl, rfl, rfl⟩
  · split
    · exact ⟨rfl, rfl, rfl, rfl, rfl⟩
    · exact ⟨rfl, rfl, rfl, rfl, rfl⟩

theorem unestimated_build_iff :
    (build z serviceDate scheduled event lastDelay).Unestimated ↔
      Silent z serviceDate scheduled event lastDelay := by
  unfold build
  dsimp only
  cases time : (event.bind (·.time)).bind Instant.ofUnix? with
  | some t =>
    constructor
    · intro unestimated
      cases unestimated.utc
    · intro silent
      have timeless := silent.timeless
      rw [time] at timeless
      cases timeless
  | none =>
    cases shift : (event.bind (·.delay)).or lastDelay with
    | none =>
      refine iff_of_true ⟨rfl, rfl, rfl, rfl⟩ ⟨time, ?_⟩
      intro seconds shifted
      rw [shift] at shifted
      cases shifted
    | some seconds =>
      constructor
      · intro unestimated
        refine ⟨time, fun other same => ?_⟩
        obtain rfl := Option.some.inj (shift.symm.trans same)
        exact ⟨unestimated.clock, unestimated.zoned⟩
      · intro silent
        obtain ⟨clock, nowhere⟩ := silent.unshifted seconds shift
        dsimp only
        rw [nowhere]
        exact ⟨clock, rfl, rfl, rfl⟩

end StopTimeEvent

namespace StopTime

variable {g : Gateway} {r : StopTime}

/-- What cancels a row of the schedule: the entry of its call, or the update of its trip. -/
inductive Canceled (g : Gateway) (r : StopTime) : Prop
  | call (skipped : r.update.any (·.isSkipped) = true)
  | trip {id : String} {snapshot : Snapshot} {t : TripUpdate}
      (named : IdCache.tripId? g.warehouse g.ids r.tripId = some id)
      (messages : g.snapshotOf r.feedVersionId = .ok snapshot)
      (update : snapshot.trip? id = some t) (canceled : t.trip.scheduleRelationship = some 3)

theorem relationship?_eq_canceled_iff {update : Option TripUpdate} :
    TripUpdate.relationship? update = some .canceled ↔
      ∃ t, update = some t ∧ t.trip.scheduleRelationship = some 3 := by
  cases update with
  | none => simp [TripUpdate.relationship?]
  | some t =>
    have value (n : Int) : ScheduleRelationship.ofTripValue? n = some .canceled ↔ n = 3 := by
      unfold ScheduleRelationship.ofTripValue?
      split <;> simp_all
    simp only [TripUpdate.relationship?, value, Option.some.injEq, exists_eq_left']
    cases t.trip.scheduleRelationship with
    | none => simp
    | some n => simp

/-- The relationship of a row, whatever has been looked up before. -/
theorem run_relationship (r : StopTime) (g : Gateway) :
    (r.scheduleRelationship.run.run g).1 = r.relationshipIn g := by
  unfold scheduleRelationship relationshipIn
  split
  · rfl
  · split
    · rfl
    · have consulted := (Task.consults_tripId r.tripId).run Gateway.lasting_consulted g
      rw [Resolve.run_bind, Resolve.run_on]
      rw [Task.run_remember, IdCache.answer_tripId]
      rw [Task.run_remember] at consulted
      cases IdCache.tripId? g.warehouse g.ids r.tripId with
      | none => rfl
      | some id =>
        dsimp only [Except.mapError] at consulted ⊢
        rw [Resolve.run_bind, Resolve.run_on, Task.run_inSnapshot, consulted.snapshotOf]
        cases g.snapshotOf r.feedVersionId <;> rfl

theorem relationshipIn_of_consulted {h : Gateway} (consulted : g.Consulted h) (r : StopTime) :
    r.relationshipIn h = r.relationshipIn g := by
  unfold relationshipIn
  rw [consulted.warehouse, consulted.ids.tripId, consulted.snapshotOf]

theorem zone_of_found {zone : Zone} (found : g.zoneFound r.stopId = some zone)
    (named : r.stopId ≠ 0) : (r.zone.run.run g).1 = .ok zone := by
  obtain ⟨next, zoned⟩ := r.run_zone g
  rw [zoned, beq_eq_false_iff_ne.mpr named, found]
  rfl

/-- A row is canceled if it is scheduled and something cancels it. -/
theorem relationshipIn_eq_canceled_iff :
    r.relationshipIn g = .ok (some .canceled) ↔ r.isAdded = false ∧ r.Canceled g := by
  unfold relationshipIn
  cases r.isAdded with
  | true => simp
  | false =>
    simp only [Bool.false_eq_true, if_false, true_and]
    cases skipped : r.update.any (·.isSkipped) with
    | true =>
      simp only [if_true, true_iff]
      exact .call skipped
    | false =>
      simp only [Bool.false_eq_true, if_false]
      constructor
      · intro resolved
        cases named : IdCache.tripId? g.warehouse g.ids r.tripId with
        | none =>
          rw [named] at resolved
          cases resolved
        | some id =>
          cases messages : g.snapshotOf r.feedVersionId with
          | error e =>
            rw [named, messages] at resolved
            cases resolved
          | ok snapshot =>
            rw [named, messages] at resolved
            obtain ⟨t, update, canceled⟩ :=
              relationship?_eq_canceled_iff.mp (Except.ok.inj resolved)
            exact .trip named messages update canceled
      · intro canceled
        cases canceled with
        | call skips =>
          rw [skipped] at skips
          cases skips
        | trip named messages update canceled =>
          rw [named, messages]
          exact congrArg Except.ok (relationship?_eq_canceled_iff.mpr ⟨_, update, canceled⟩)

/-- The two events of a call. -/
inductive Side
  | arrival
  | departure
  deriving DecidableEq, Repr

namespace Side

def field : Side → StopTime → Resolve StopTimeEvent
  | .arrival => StopTime.arrival
  | .departure => StopTime.departure

def scheduled : Side → StopTime → Option WideTime
  | .arrival => StopTime.arrivalTime
  | .departure => StopTime.departureTime

/-- What the entry of the call says about the event, else about the other one. -/
def reported : Side → StopTime → Option TimeEvent
  | .arrival => fun r => (r.update.bind (·.update)).bind fun u => u.arrival.or u.departure
  | .departure => fun r => (r.update.bind (·.update)).bind fun u => u.departure.or u.arrival

/-- An event is built in the zone of the row from its schedule, the entry and the last delay. -/
theorem run_field (side : Side) (r : StopTime) {g : Gateway} {z : Zone}
    (zoned : (r.zone.run.run g).1 = .ok z) :
    ((side.field r).run.run g).1 = .ok (.build z r.serviceDate (side.scheduled r)
      (side.reported r) (r.update.bind (·.lastDelay))) := by
  obtain ⟨next, found⟩ := Resolve.run_of_answer zoned
  cases side with
  | arrival => exact congrArg Prod.fst (Resolve.run_bind_of_ok found)
  | departure => exact congrArg Prod.fst (Resolve.run_bind_of_ok found)

end Side

end StopTime

namespace Stop

open StopTime (Side)

/-- An update that says that a trip is canceled and that its first call is a minute late. -/
def cancellation : Source where
  trips := [("T", {
    trip := { tripId := some "T", scheduleRelationship := some 3 }
    stopTimeUpdates := [{ stopSequence := some 1, departure := some { delay := some 60 } }] })]

def secondCall : StopTime := { leaving 36000 with stopSequence := 2 }

/-- The trip calls at the stop at 10:00:00, after its first call. -/
def canceledMorning : Gateway where
  warehouse := {
    feeds := [{ id := 1, onestopId := "BA" }]
    feedVersions := [{ id := 1, feedId := 1 }]
    stops := [nightStop]
    trips := [{ id := 5, feedVersionId := 1, tripId := "T", serviceId := 1 }]
    calendarDates := [{ id := 1, serviceId := 1, date := ⟨17681⟩, exceptionType := 1 }]
    stopTimes := [secondCall] }
  topics := [(Topic.key ⟨"BA", .tripUpdates⟩, cancellation)]
  request := .start {} {}

/-- The row of the call, with the delay of the call before. -/
def canceledCall : StopTime := { secondCall.stamp ⟨17681⟩ with update := some ⟨none, some 60⟩ }

theorem stopTimes_canceledMorning :
    ((nightStop.stopTimes none (some onDate)).run.run canceledMorning).1 = .ok [canceledCall] := by
  let messages : Snapshot := ⟨[{ feed := "BA", tripUpdates := some cancellation }]⟩
  have active : canceledMorning.Active := Gateway.active_startRequest canceledMorning {}
  have zoned : IdCache.stopZone? canceledMorning.warehouse canceledMorning.ids nightStop.id
      nightStop.stopTimezone = some ⟨"UTC", 0, []⟩ := rfl
  have overlaid : canceledMorning.overlay messages nightStop (secondCall.stamp ⟨17681⟩) =
      canceledCall := rfl
  rw [← overlaid]
  exact display_of_single active zoned rfl (fun _ => rfl) rfl rfl

/-- A row whose relationship resolves to canceled has a skipped call or a canceled trip. Once its
zone is known it has both events, which report the schedule. They have no estimate exactly if
the entry of the call has no time, and neither the entry nor an earlier one a delay. -/
theorem canceled_unestimated_iff {r : StopTime} {g later : Gateway} {z : Zone}
    (canceled : (r.scheduleRelationship.run.run g).1 = .ok (some .canceled))
    (zoned : (r.zone.run.run later).1 = .ok z) :
    (r.isAdded = false ∧ r.Canceled g) ∧
      ∀ side : Side, ∃ event, ((side.field r).run.run later).1 = .ok event ∧
        event.Reports z r.serviceDate (side.scheduled r) ∧
        (event.Unestimated ↔ StopTimeEvent.Silent z r.serviceDate (side.scheduled r)
          (side.reported r) (r.update.bind (·.lastDelay))) := by
  rw [StopTime.run_relationship] at canceled
  refine ⟨StopTime.relationshipIn_eq_canceled_iff.mp canceled, fun side => ?_⟩
  exact ⟨_, side.run_field r zoned, StopTimeEvent.reports_build _ _ _ _ _,
    StopTimeEvent.unestimated_build_iff⟩

/-- The delay of the first call counts for the second one. -/
theorem canceled_unestimated_iff_of_morning :
    let utc : Zone := ⟨"UTC", 0, []⟩
    (canceledCall.scheduleRelationship.run.run canceledMorning).1 = .ok (some .canceled) ∧
      (canceledCall.zone.run.run canceledMorning).1 = .ok utc ∧
      ∃ event, (canceledCall.departure.run.run canceledMorning).1 = .ok event ∧
        event.Reports utc (some ⟨17681⟩) (some ⟨36000⟩) ∧ ¬ event.Unestimated := by
  intro utc
  have canceled : (canceledCall.scheduleRelationship.run.run canceledMorning).1 =
      .ok (some .canceled) := rfl
  have zoned : (canceledCall.zone.run.run canceledMorning).1 = .ok utc := rfl
  obtain ⟨_, events⟩ := canceled_unestimated_iff canceled zoned
  obtain ⟨event, resolved, reports, silent⟩ := events .departure
  refine ⟨canceled, zoned, event, resolved, reports, fun unestimated => ?_⟩
  obtain ⟨unshifted, _⟩ := (silent.mp unestimated).unshifted 60 rfl
  cases unshifted

/-- The trip is canceled, its schedule is kept, and so is an estimate of its departure. -/
theorem canceled_with_estimate :
    ∃ last, (nightStop.stopTimes none (some onDate)).run.run canceledMorning =
        (.ok [canceledCall], last) ∧
      (canceledCall.scheduleRelationship.run.run last).1 = .ok (some .canceled) ∧
      ∃ event, (canceledCall.departure.run.run last).1 = .ok event ∧
        event.scheduled = some ⟨36000⟩ ∧ event.estimated = some ⟨36060⟩ := by
  obtain ⟨last, ran⟩ := Resolve.run_of_answer stopTimes_canceledMorning
  have consulted := (nightStop.consults_stopTimes none (some onDate)).run Gateway.lasting_consulted
    canceledMorning
  rw [ran] at consulted
  have canceled : canceledCall.relationshipIn canceledMorning = .ok (some .canceled) := rfl
  have found : canceledMorning.zoneFound 7 = some ⟨"UTC", 0, []⟩ := rfl
  have zoned := StopTime.zone_of_found (r := canceledCall)
    ((consulted.sameAnswers.steady.found 7).trans found) (by decide)
  refine ⟨last, ran, ?_, _, StopTime.Side.departure.run_field canceledCall zoned, rfl, rfl⟩
  rw [StopTime.run_relationship, StopTime.relationshipIn_of_consulted consulted, canceled]

end Stop

end Transit
