import Transit.Proofs.Field.DateWindow
import Transit.Proofs.Realtime.Visits
import Transit.Proofs.Session.Unedited
set_option autoImplicit false

/-!
# Two look-ups of one visit

The display of a stop finds the update of a visit from the record of the stop and the id of the
trip, by `mergeStopTimes`; a caller finds it from the record of the trip and the id of the stop, by
`visitUpdate`. Each goes through memories of its own, and the second ends early for a trip of which
nothing is known. Over a warehouse that has not been edited they agree (`Session.lookups_agree`).
-/

namespace Transit

open Realtime
open Gateway (SameAnswers)

/-! ## Visits without updates -/

namespace Realtime.Snapshot

variable {s : Snapshot}

theorem visit?_of_unknown {tripId : String} (unknown : s.trip? tripId = none) (sequence : Int)
    (stopId : Option String) : s.visit? tripId sequence stopId = none := by
  have nothing : (s.tripSources.filterMap fun source => do
      (← source.trip? tripId).visit? sequence stopId) = [] := by
    refine List.filterMap_eq_nil_iff.mpr fun source member => ?_
    rw [List.findSome?_eq_none_iff.mp unknown source member]
    rfl
  rw [visit?, nothing]
  rfl

theorem visit?_of_isEmpty (empty : s.isEmpty = true) (tripId : String) (sequence : Int)
    (stopId : Option String) : s.visit? tripId sequence stopId = none := by
  rw [isEmpty, List.isEmpty_iff] at empty
  rw [visit?, tripSources, empty]
  rfl

end Realtime.Snapshot

/-! ## The two look-ups -/

namespace Task

variable {g : Gateway}

theorem run_readFeeds (feeds : List String) (g : Gateway) :
    (readFeeds feeds).run g = (feeds.map g.sourcesOf, g) := by
  induction feeds with
  | nil => rfl
  | cons feed rest ih =>
    rw [readFeeds, run_bind, run_bind, List.map_cons]
    have looked : (look (·.sourcesOf feed)).run g = (g.sourcesOf feed, g) := rfl
    rw [looked, ih]
    rfl

/-- The messages of the moment, whatever has been looked up before. -/
theorem run_snapshot (version : Int) (g : Gateway) :
    ((snapshot version).run g).1 = g.snapshotOf version := by
  rw [snapshot, run_bind, run_remember, IdCache.answer_feeds, Gateway.snapshotOf]
  cases IdCache.feeds? g.warehouse g.ids version with
  | error e => rfl
  | ok feeds =>
    dsimp only
    rw [run_bind, run_readFeeds]
    rfl

theorem run_inSnapshot {α : Type} (version : Int) (view : Snapshot → α) (g : Gateway) :
    ((inSnapshot version view).run g).1 = (g.snapshotOf version).map view := by
  rw [inSnapshot, run_bind, run_snapshot]
  rfl

theorem answers_snapshot (version : Int) (g : Gateway) :
    SameAnswers g ((snapshot version).run g).2 :=
  ((consults_snapshot version).run Gateway.lasting_consulted g).sameAnswers

/-- What a caller finds is the visit of the trip at the stop with the id that is found for it. -/
theorem visitUpdate_eq (g : Gateway) (t : Trip) (r : StopTime) :
    ((visitUpdate t r).run g).1 = (g.snapshotOf t.feedVersionId).map fun s =>
      s.visit? t.tripId r.stopSequence (IdCache.stopId? g.warehouse g.ids r.stopId) := by
  rw [visitUpdate, run_bind, run_snapshot]
  cases g.snapshotOf t.feedVersionId with
  | error e => rfl
  | ok s =>
    dsimp only
    split
    · next unknown =>
      have nothing := s.visit?_of_unknown (Option.isNone_iff_eq_none.mp unknown) r.stopSequence
        (IdCache.stopId? g.warehouse g.ids r.stopId)
      exact congrArg Except.ok nothing.symm
    · have same := answers_snapshot t.feedVersionId g
      rw [run_bind, run_remember, IdCache.answer_stopId, same.warehouse, same.ids.stopId]
      rfl

end Task

/-! ## They agree -/

/-- A row is found by its id where no other has the id. -/
theorem find?_of_distinct {τ : Type} (id : τ → Int) {rows : List τ}
    (distinct : (rows.map id).Nodup) {row : τ} (member : row ∈ rows) :
    rows.find? (id · == id row) = some row := by
  have some : (rows.find? (id · == id row)).isSome = true :=
    List.find?_isSome.mpr ⟨row, member, beq_self_eq_true (id row)⟩
  obtain ⟨found, isFound⟩ := Option.isSome_iff_exists.mp some
  have same : id found = id row := by simpa using List.find?_some isFound
  rw [isFound, List.inj_on_of_nodup_map distinct (List.mem_of_find?_eq_some isFound) member same]

namespace Gateway

variable {g h : Gateway}

/-- The messages that bear on a feed version are those of its feeds. -/
theorem snapshotOf_congr {version : Int} (feeds : IdCache.feeds? h.warehouse h.ids version =
    IdCache.feeds? g.warehouse g.ids version) (messages : h.topics = g.topics) :
    h.snapshotOf version = g.snapshotOf version := by
  have sources : h.sourcesOf = g.sourcesOf := by
    funext feed
    rw [sourcesOf, messages]
    rfl
  rw [snapshotOf, feeds, sources]
  rfl

theorem Consulted.snapshotOf (consulted : Consulted g h) (version : Int) :
    h.snapshotOf version = g.snapshotOf version := by
  obtain ⟨⟨_, _, _, _, _, rfl⟩, ids, _⟩ := consulted
  exact snapshotOf_congr (ids.feeds version) rfl

/-- A scheduled row of a known trip gets the visit of the trip. -/
theorem Faithful.overlay (faithful : g.Faithful) {t : Trip} {r : StopTime}
    (known : g.warehouse.trip? r.tripId = some t) (scheduled : r.isScheduled = true)
    (plain : r.update = none) (snapshot : Snapshot) (s : Stop) :
    g.overlay snapshot s r =
      { r with update := snapshot.visit? t.tripId r.stopSequence (some s.stopId) } := by
  have named : g.rowTripId? r = some t.tripId := by
    rw [rowTripId?, if_neg (by simpa [StopTime.isScheduled] using scheduled), faithful.tripId,
      known, Option.map_some]
  unfold Gateway.overlay
  split
  · next empty => rw [snapshot.visit?_of_isEmpty empty, ← plain]
  · rw [named]
    rfl

end Gateway

namespace Session

/-- Over a warehouse that has not been edited, the update that a merge of a stop's rows attaches to
a scheduled row is the one that is found for the row and its trip, however much either look-up
finds remembered; and the one fails to find the messages as the other does. -/
theorem lookups_agree {start g h : Gateway} (blank : start.ids = {}) (before : Unedited start g)
    (later : Unedited start h) (messages : h.topics = g.topics)
    (stopsApart : (start.warehouse.stops.map (·.id)).Nodup)
    (tripsApart : (start.warehouse.trips.map (·.id)).Nodup) {s : Stop}
    (stop : s ∈ start.warehouse.stops) {t : Trip} (trip : t ∈ start.warehouse.trips)
    (version : t.feedVersionId = s.feedVersionId) {r : StopTime} (scheduled : r.isScheduled = true)
    (plain : r.update = none) (here : r.stopId = s.id) (runs : r.tripId = t.id) :
    match (Task.snapshot s.feedVersionId).run g with
    | (.error e, _) => ((Task.visitUpdate t r).run h).1 = .error e
    | (.ok snapshot, next) =>
      (∀ z rows addedDate, ((Task.mergeStopTimes snapshot s z rows addedDate).run next).1 =
        .ok (StopTime.sorted z (rows.map (next.overlay snapshot s) ++
          StopTime.addedRows snapshot s addedDate))) ∧
      ∃ update, next.overlay snapshot s r = { r with update } ∧
        ((Task.visitUpdate t r).run h).1 = .ok update := by
  have faithful := before.faithful blank
  have faithfulToo := later.faithful blank
  have warehouse := before.sameAnswers.warehouse
  have warehouseToo := later.sameAnswers.warehouse
  have visits := Task.visitUpdate_eq h t r
  have isStop : h.warehouse.stop? r.stopId = some s := by
    rw [warehouseToo, here]
    exact find?_of_distinct Stop.id stopsApart stop
  have feeds : IdCache.feeds? h.warehouse h.ids s.feedVersionId =
      IdCache.feeds? g.warehouse g.ids s.feedVersionId := by
    rw [faithfulToo.feeds, warehouseToo, faithful.feeds, warehouse]
  rw [version, Gateway.snapshotOf_congr feeds messages, faithfulToo.stopId, isStop,
    Option.map_some, ← Task.run_snapshot] at visits
  have same := Task.answers_snapshot s.feedVersionId g
  cases shot : (Task.snapshot s.feedVersionId).run g with
  | mk answer next =>
    rw [shot] at visits same
    cases answer with
    | error e => exact visits
    | ok snapshot =>
      have isTrip : next.warehouse.trip? r.tripId = some t := by
        rw [same.warehouse, warehouse, runs]
        exact find?_of_distinct Trip.id tripsApart trip
      refine ⟨fun z rows addedDate => ?_, _, ?_, visits⟩
      · exact Task.mergeStopTimes_eq next snapshot s z rows addedDate
      · exact (faithful.sameAnswers same).overlay isTrip scheduled plain snapshot s

/-- Two feeds have an update for one trip. The first has an entry for the first call, the second one
for the stop of the second call. -/
def twoFeeds : Gateway where
  warehouse := {
    feeds := [{ id := 1, onestopId := "BA", associatedFeeds := ["BA~1", "BA~2"] }]
    feedVersions := [{ id := 1, feedId := 1 }]
    stops := [Stop.nightStop]
    trips := [{ id := 5, feedVersionId := 1, tripId := "T", serviceId := 1 }] }
  topics := [
    (Topic.key ⟨"BA~1", .tripUpdates⟩, { trips := [("T", { stopTimeUpdates := [
      { stopSequence := some 1, departure := some { delay := some 60 } }] })] }),
    (Topic.key ⟨"BA~2", .tripUpdates⟩, { trips := [("T", { stopTimeUpdates := [
      { stopId := some "S", departure := some { delay := some 90 } }] })] })]
  request := .start {} {}

/-- The second call of the trip. -/
def secondCall : StopTime := { feedVersionId := 1, tripId := 5, stopId := 7, stopSequence := 2 }

/-- The delay of the first feed gives way to the entry of the second, for the display and for a
later request. -/
theorem lookups_agree_of_two_feeds :
    let t : Trip := { id := 5, feedVersionId := 1, tripId := "T", serviceId := 1 }
    let later := (Move.alone ⟨"new_request", ⟨[]⟩⟩).after twoFeeds
    let update : VisitUpdate :=
      ⟨some { stopId := some "S", departure := some { delay := some 90 } }, none⟩
    twoFeeds.ids = {} ∧ Unedited twoFeeds later ∧ later.topics = twoFeeds.topics ∧
      (twoFeeds.warehouse.stops.map (·.id)).Nodup ∧ (twoFeeds.warehouse.trips.map (·.id)).Nodup ∧
      Stop.nightStop ∈ twoFeeds.warehouse.stops ∧ t ∈ twoFeeds.warehouse.trips ∧
      t.feedVersionId = Stop.nightStop.feedVersionId ∧ secondCall.isScheduled = true ∧
      secondCall.update = none ∧ secondCall.stopId = Stop.nightStop.id ∧
      secondCall.tripId = t.id ∧
      ∃ snapshot next, (Task.snapshot Stop.nightStop.feedVersionId).run twoFeeds =
          (.ok snapshot, next) ∧
        next.overlay snapshot Stop.nightStop secondCall =
          { secondCall with update := some update } ∧
        ((Task.visitUpdate t secondCall).run later).1 = .ok (some update) := by
  intro t later update
  have unedited : Unedited twoFeeds later := .alone .start rfl
  have stop : Stop.nightStop ∈ twoFeeds.warehouse.stops := List.mem_singleton_self _
  have trip : t ∈ twoFeeds.warehouse.trips := List.mem_singleton_self _
  have visits : ((Task.visitUpdate t secondCall).run later).1 = .ok (some update) := rfl
  have agree := lookups_agree rfl .start unedited rfl (by decide) (by decide) stop trip rfl
    (rfl : secondCall.isScheduled = true) rfl rfl rfl
  obtain ⟨_, found, overlaid, visited⟩ := agree
  obtain rfl := Except.ok.inj (visited.symm.trans visits)
  exact ⟨rfl, unedited, rfl, by decide, by decide, stop, trip, rfl, rfl, rfl, rfl, rfl, _, _, rfl,
    overlaid, visited⟩

end Session

end Transit
