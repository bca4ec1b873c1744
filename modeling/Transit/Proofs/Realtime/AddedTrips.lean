import Mathlib.Data.String.Basic
import Transit.Proofs.Loader.Cache
import Transit.Proofs.Realtime.AddedOrder
import Transit.Proofs.Realtime.Lookups
set_option autoImplicit false

/-!
# The trips of rows outside the schedule

A feed has one update for each trip id (`Source.Indexed`), but two feeds can have updates for the
same one. The rows of a stop come from the updates of every feed, and their trips are looked up by
the id, in the first feed that has it. So a row gets the trip that it was made from unless an
earlier feed has another update under its id (`added_rows_resolve_iff`).
-/

namespace Transit

open Realtime

namespace Realtime.Source

/-- There is one update for each trip id, which is the id of its trip and not empty. -/
structure Indexed (s : Source) : Prop where
  ordered : s.trips.Pairwise (·.1 < ·.1)
  own : ∀ entry ∈ s.trips, entry.1 ≠ "" ∧ entry.2.trip.tripId = some entry.1

section
variable {id : String} {t : TripUpdate} {trips : List (String × TripUpdate)}

theorem eq_or_mem_of_mem_insertTrip {entry : String × TripUpdate}
    (member : entry ∈ insertTrip id t trips) : entry = (id, t) ∨ entry ∈ trips := by
  induction trips with
  | nil => exact .inl (List.mem_singleton.mp member)
  | cons first rest ih =>
    unfold insertTrip at member
    split at member
    · exact List.mem_cons.mp member
    · split at member
      · exact (List.mem_cons.mp member).imp_right (List.mem_cons_of_mem first)
      · rcases List.mem_cons.mp member with rfl | later
        · exact .inr List.mem_cons_self
        · exact (ih later).imp_right (List.mem_cons_of_mem first)

theorem ordered_insertTrip (ordered : trips.Pairwise (·.1 < ·.1)) :
    (insertTrip id t trips).Pairwise (·.1 < ·.1) := by
  induction trips with
  | nil => exact List.pairwise_singleton _ _
  | cons first rest ih =>
    obtain ⟨before, ordered⟩ := List.pairwise_cons.mp ordered
    unfold insertTrip
    split
    · next earlier =>
      refine List.pairwise_cons.mpr ⟨?_, List.pairwise_cons.mpr ⟨before, ordered⟩⟩
      intro entry member
      rcases List.mem_cons.mp member with rfl | later
      · exact earlier
      · exact lt_trans earlier (before entry later)
    · next notEarlier =>
      split
      · next same =>
        obtain rfl := eq_of_beq same
        exact List.pairwise_cons.mpr ⟨before, ordered⟩
      · next different =>
        refine List.pairwise_cons.mpr ⟨?_, ih ordered⟩
        intro entry member
        rcases eq_or_mem_of_mem_insertTrip member with rfl | later
        · have unequal : first.1 ≠ id := fun same => different (beq_iff_eq.mpr same.symm)
          exact lt_of_le_of_ne (not_lt.mp notEarlier) unequal
        · exact before entry later

end

/-- An entity adds its update under the id of its own trip. -/
theorem Indexed.add {s : Source} (indexed : s.Indexed) (e : Entity) : (s.add e).Indexed := by
  unfold Source.add
  split
  · exact indexed
  · dsimp only
    cases e.tripUpdate with
    | none => exact ⟨indexed.ordered, indexed.own⟩
    | some t =>
      dsimp only
      cases named : t.trip.tripId with
      | none => exact ⟨indexed.ordered, indexed.own⟩
      | some id =>
        dsimp only
        split
        · exact ⟨indexed.ordered, indexed.own⟩
        · next nonempty =>
          refine ⟨ordered_insertTrip indexed.ordered, fun entry member => ?_⟩
          rcases eq_or_mem_of_mem_insertTrip member with rfl | old
          · exact ⟨fun empty => nonempty (String.isEmpty_iff.mpr empty), named⟩
          · exact indexed.own entry old

theorem indexed_ofMessage (m : Message) : (ofMessage m).Indexed := by
  have grows (entities : List Entity) (s : Source) (indexed : s.Indexed) :
      (entities.foldl Source.add s).Indexed := by
    induction entities generalizing s with
    | nil => exact indexed
    | cons e rest ih => exact ih (s.add e) (indexed.add e)
  exact grows m.entities _ ⟨.nil, fun entry member => absurd member List.not_mem_nil⟩

theorem Indexed.trip?_eq_some_iff {s : Source} (indexed : s.Indexed) {id : String}
    {t : TripUpdate} : s.trip? id = some t ↔ (id, t) ∈ s.trips := by
  constructor
  · exact Loader.mem_of_lookup
  · intro member
    obtain ⟨before, after, split⟩ := List.append_of_mem member
    refine List.lookup_eq_some_iff.mpr ⟨before, after, split, ?_⟩
    intro entry earlier
    have ordered := indexed.ordered
    rw [split] at ordered
    have less := (List.pairwise_append.mp ordered).2.2 entry earlier (id, t) List.mem_cons_self
    exact bne_iff_ne.mpr (ne_of_gt less)

end Realtime.Source

namespace Realtime.Snapshot

variable {s : Snapshot} {id stopId : String} {t : TripUpdate}

/-- Everything known of trips has been read from messages. -/
def Received (s : Snapshot) : Prop :=
  ∀ source ∈ s.tripSources, ∃ m, source = Source.ofMessage m

/-- The update of a trip in one of the feeds with trip updates, by its place among them. -/
def updateIn? (s : Snapshot) (feed : Nat) (id : String) : Option TripUpdate :=
  s.tripSources[feed]?.bind (·.trip? id)

/-- No earlier feed has an update for the trip. -/
def Foremost (s : Snapshot) (feed : Nat) (id : String) : Prop :=
  ∀ earlier < feed, s.updateIn? earlier id = none

theorem Received.indexed (received : s.Received) {source : Source}
    (member : source ∈ s.tripSources) : source.Indexed := by
  obtain ⟨m, rfl⟩ := received source member
  exact Source.indexed_ofMessage m

/-- A trip is looked up in the foremost feed that has an update for it. -/
theorem trip?_eq_some_iff :
    s.trip? id = some t ↔ ∃ feed, s.updateIn? feed id = some t ∧ s.Foremost feed id := by
  unfold trip? Foremost updateIn?
  rw [List.findSome?_eq_some_iff]
  constructor
  · rintro ⟨before, source, after, split, found, none⟩
    refine ⟨before.length, ?_, ?_⟩
    · rw [split, List.getElem?_append_right (Nat.le_refl _), Nat.sub_self]
      exact found
    · intro earlier less
      rw [split, List.getElem?_append_left less, List.getElem?_eq_getElem less]
      exact none _ (List.getElem_mem less)
  · rintro ⟨feed, here, foremost⟩
    obtain ⟨source, atFeed, found⟩ := Option.bind_eq_some_iff.mp here
    obtain ⟨inside, rfl⟩ := List.getElem?_eq_some_iff.mp atFeed
    refine ⟨s.tripSources.take feed, s.tripSources[feed], s.tripSources.drop (feed + 1), ?_, found,
      ?_⟩
    · rw [← List.drop_eq_getElem_cons inside, List.take_append_drop]
    · intro other member
      obtain ⟨earlier, less, rfl⟩ := List.mem_take_iff_getElem.mp member
      have none := foremost earlier (by omega)
      rwa [List.getElem?_eq_getElem (by omega), Option.bind_some] at none

/-- Some feed is the foremost with an update for a trip if any has one. -/
theorem exists_foremost {feed : Nat} (found : s.updateIn? feed id = some t) :
    ∃ first t', s.updateIn? first id = some t' ∧ s.Foremost first id := by
  induction feed using Nat.strong_induction_on generalizing t with
  | _ feed ih =>
    by_cases foremost : s.Foremost feed id
    · exact ⟨feed, t, found, foremost⟩
    · simp only [Foremost, not_forall] at foremost
      obtain ⟨earlier, less, some⟩ := foremost
      obtain ⟨t', known⟩ := Option.ne_none_iff_exists'.mp some
      exact ih earlier less known

/-- An update is found under the id of its own trip. -/
theorem Received.own (received : s.Received) {feed : Nat} (found : s.updateIn? feed id = some t) :
    id ≠ "" ∧ t.trip.tripId = some id := by
  obtain ⟨source, atFeed, found⟩ := Option.bind_eq_some_iff.mp found
  have indexed := received.indexed (List.mem_of_getElem? atFeed)
  exact indexed.own (id, t) (indexed.trip?_eq_some_iff.mp found)

/-- The calls outside the schedule come from the updates of every feed. -/
theorem Received.mem_addedCalls_iff (received : s.Received) {c : TripUpdate × StopTimeUpdate} :
    c ∈ s.addedCalls stopId ↔ (∃ id feed, s.updateIn? feed id = some c.1) ∧ c.1.isAdded = true ∧
      c.2 ∈ c.1.stopTimeUpdates ∧ c.2.stopId = some stopId := by
  obtain ⟨t, u⟩ := c
  simp only [addedCalls, List.mem_flatMap, List.mem_filter, List.mem_map, Prod.mk.injEq,
    beq_iff_eq]
  constructor
  · rintro ⟨_, ⟨⟨source, inSources, entry, inTrips, rfl⟩, added⟩, _, ⟨listed, here⟩, rfl, rfl⟩
    obtain ⟨feed, atFeed⟩ := List.mem_iff_getElem?.mp inSources
    refine ⟨⟨entry.1, feed, ?_⟩, added, listed, here⟩
    rw [updateIn?, atFeed, Option.bind_some]
    exact (received.indexed inSources).trip?_eq_some_iff.mpr inTrips
  · rintro ⟨⟨id, feed, found⟩, added, listed, here⟩
    obtain ⟨source, atFeed, found⟩ := Option.bind_eq_some_iff.mp found
    have inTrips : (id, t) ∈ source.trips := Loader.mem_of_lookup found
    exact ⟨t, ⟨⟨source, List.mem_of_getElem? atFeed, (id, t), inTrips, rfl⟩, added⟩, u,
      ⟨listed, here⟩, rfl, rfl⟩

/-- The feed has an update for the trip that says that it is not in the schedule and calls at the
stop. -/
def Adds (s : Snapshot) (stopId : String) (feed : Nat) (id : String) (t : TripUpdate) : Prop :=
  s.updateIn? feed id = some t ∧ t.isAdded = true ∧ t.callsAt stopId = true

theorem Received.exists_adds (received : s.Received) {c : TripUpdate × StopTimeUpdate}
    (member : c ∈ s.addedCalls stopId) :
    ∃ id feed, c.1.trip.tripId = some id ∧ s.Adds stopId feed id c.1 := by
  obtain ⟨⟨id, feed, found⟩, added, listed, here⟩ := received.mem_addedCalls_iff.mp member
  exact ⟨id, feed, (received.own found).2, found, added,
    List.any_eq_true.mpr ⟨c.2, listed, beq_iff_eq.mpr here⟩⟩

theorem Received.exists_call (received : s.Received) {feed : Nat} (adds : s.Adds stopId feed id t) :
    ∃ u, (t, u) ∈ s.addedCalls stopId ∧ t.trip.tripId = some id := by
  obtain ⟨found, added, calls⟩ := adds
  obtain ⟨u, listed, here⟩ := List.any_eq_true.mp calls
  exact ⟨u, received.mem_addedCalls_iff.mpr ⟨⟨id, feed, found⟩, added, listed, beq_iff_eq.mp here⟩,
    (received.own found).2⟩

end Realtime.Snapshot

/-- The trip of a route that an update describes. -/
def Realtime.TripUpdate.asTrip (t : TripUpdate) (version : Int) (tripId : String) (routeId : Int) :
    Trip where
  id := StopTime.addedTripId
  feedVersionId := version
  tripId
  routeId
  directionId := Number.Range.int32.wrap (t.trip.directionId.getD 0)

namespace Task

variable {g : Gateway} {s : Snapshot}

/-- A trip outside the schedule is what the update that is looked up describes. -/
theorem addedTrip_of_trip? {version : Int} (shown : g.snapshotOf version = .ok s) {id : String}
    {t : TripUpdate} (found : s.trip? id = some t) :
    ((addedTrip version id).run g).1 =
      (IdCache.routeId? g.warehouse g.ids version (t.trip.routeId.getD "")).elim
        (.error (.notFound "trip" id)) fun routeId => .ok (t.asTrip version id routeId) := by
  have same := answers_snapshot version g
  rw [addedTrip, run_bind, run_snapshot, shown]
  dsimp only
  rw [found]
  dsimp only
  rw [run_bind, run_remember, IdCache.answer_routeId, same.warehouse, same.ids.routeId]
  dsimp only
  cases IdCache.routeId? g.warehouse g.ids version (t.trip.routeId.getD "") <;> rfl

/-- The rows outside the schedule are made from the updates of every feed, but the trip of a row is
the one that the foremost feed with its id describes. So the rows get the trips that they are made
from if and only if the foremost feed has the same update as any that adds a row, and the rows of an
id come from one update if and only if all feeds that add rows for it have the same. -/
theorem added_rows_resolve_iff (s : Snapshot) (received : s.Received) (stop : Stop)
    (date : Option Date) :
    let row (call : TripUpdate × StopTimeUpdate) := StopTime.ofAdded stop date call.1 call.2
    let calls := s.addedCalls stop.stopId
    StopTime.addedRows s stop date = calls.map row ∧
    (∀ c ∈ calls, ∃ id feed t, (row c).addedTripId? = some id ∧ s.updateIn? feed id = some t ∧
      s.Foremost feed id ∧ s.trip? id = some t ∧
      ∀ g : Gateway, g.snapshotOf stop.feedVersionId = .ok s →
        ((addedTrip (row c).feedVersionId id).run g).1 =
          (IdCache.routeId? g.warehouse g.ids stop.feedVersionId (t.trip.routeId.getD "")).elim
            (.error (.notFound "trip" id))
            fun routeId => .ok (t.asTrip stop.feedVersionId id routeId)) ∧
    ((∀ c ∈ calls, (row c).addedTripId?.bind s.trip? = some c.1) ↔
      ∀ id first feed t t', s.updateIn? first id = some t → s.Foremost first id →
        s.Adds stop.stopId feed id t' → t = t') ∧
    ((∀ c ∈ calls, ∀ c' ∈ calls, (row c).addedTripId? = (row c').addedTripId? → c.1 = c'.1) ↔
      ∀ id feed feed' t t', s.Adds stop.stopId feed id t → s.Adds stop.stopId feed' id t' →
        t = t') := by
  intro row calls
  refine ⟨StopTime.addedRows_eq s stop date, ?_, ?_, ?_⟩
  · intro c member
    obtain ⟨id, feed, named, found, _⟩ := received.exists_adds member
    obtain ⟨first, t, known, foremost⟩ := Snapshot.exists_foremost found
    have isTrip := Snapshot.trip?_eq_some_iff.mpr ⟨first, known, foremost⟩
    exact ⟨id, first, t, named, known, foremost, isTrip,
      fun g shown => addedTrip_of_trip? shown isTrip⟩
  · constructor
    · intro resolves id first feed t t' known foremost adds
      obtain ⟨u, member, named⟩ := received.exists_call adds
      have own : (some id).bind s.trip? = some t' := named ▸ resolves (t', u) member
      have isTrip := Snapshot.trip?_eq_some_iff.mpr ⟨first, known, foremost⟩
      exact Option.some.inj (isTrip.symm.trans own)
    · intro agree c member
      obtain ⟨id, feed, named, adds⟩ := received.exists_adds member
      obtain ⟨first, t, known, foremost⟩ := Snapshot.exists_foremost adds.1
      have same := agree id first feed t c.1 known foremost adds
      have carries : (row c).addedTripId? = some id := named
      rw [carries, Option.bind_some]
      exact Snapshot.trip?_eq_some_iff.mpr ⟨first, same ▸ known, foremost⟩
  · constructor
    · intro single id feed feed' t t' adds adds'
      obtain ⟨u, member, named⟩ := received.exists_call adds
      obtain ⟨u', member', named'⟩ := received.exists_call adds'
      exact single (t, u) member (t', u') member' (named.trans named'.symm)
    · intro agree c member c' member' same
      obtain ⟨id, feed, named, adds⟩ := received.exists_adds member
      obtain ⟨id', feed', named', adds'⟩ := received.exists_adds member'
      obtain rfl := Option.some.inj (named.symm.trans (Eq.trans same named'))
      exact agree id feed feed' c.1 c'.1 adds adds'

/-- A feed with one update, of a trip with one call. -/
def oneTrip (relationship : Option Int) (id : String) (call : StopTimeUpdate) : FeedSources where
  feed := "BA"
  tripUpdates := some (.ofMessage { entities := [{ tripUpdate := some {
    trip := { tripId := some id, scheduleRelationship := relationship }
    stopTimeUpdates := [call] } }] })

theorem received_oneTrip (first second : Option Int × String × StopTimeUpdate) :
    Snapshot.Received
      ⟨[oneTrip first.1 first.2.1 first.2.2, oneTrip second.1 second.2.1 second.2.2]⟩ := by
  intro source member
  rcases List.mem_pair.mp member with rfl | rfl <;> exact ⟨_, rfl⟩

/-- A feed with the scheduled trip `X` and one with the trip `Y` outside the schedule. -/
def apart : Snapshot := ⟨[oneTrip none "X" earlyCall, oneTrip (some 1) "Y" lateCall]⟩

theorem added_rows_resolve_iff_of_apart :
    apart.Received ∧
    (StopTime.addedRows apart Stop.nightStop none).map (·.addedTripId?) = [some "Y"] ∧
    ∀ id first feed t t', apart.updateIn? first id = some t → apart.Foremost first id →
      apart.Adds "S" feed id t' → t = t' := by
  have received : apart.Received :=
    received_oneTrip (none, "X", earlyCall) (some 1, "Y", lateCall)
  obtain ⟨_, _, own, _⟩ := added_rows_resolve_iff apart received Stop.nightStop none
  exact ⟨received, by decide, own.mp (by decide)⟩

/-- A feed has the scheduled trip `X` and the next one a trip `X` outside the schedule: the row of
the latter gets the former. Two feeds have trips `X` outside the schedule: there are rows of both. -/
theorem added_rows_of_shared_id :
    let shared : Snapshot := ⟨[oneTrip none "X" earlyCall, oneTrip (some 1) "X" earlyCall]⟩
    let doubled : Snapshot := ⟨[oneTrip (some 1) "X" earlyCall, oneTrip (some 1) "X" lateCall]⟩
    (shared.Received ∧
      (StopTime.addedRows shared Stop.nightStop none).map (·.addedTripId?) = [some "X"] ∧
      (shared.addedCalls "S").map (·.1.isAdded) = [true] ∧
      (shared.trip? "X").map (·.isAdded) = some false) ∧
    doubled.Received ∧
      (StopTime.addedRows doubled Stop.nightStop none).map (·.addedTripId?) =
        [some "X", some "X"] ∧
      (doubled.addedCalls "S").map (·.1.stopTimeUpdates) = [[earlyCall], [lateCall]] := by
  refine ⟨⟨?_, by decide, by decide, by decide⟩, ?_, by decide, by decide⟩
  · exact received_oneTrip (none, "X", earlyCall) (some 1, "X", earlyCall)
  · exact received_oneTrip (some 1, "X", earlyCall) (some 1, "X", lateCall)

end Task

end Transit
