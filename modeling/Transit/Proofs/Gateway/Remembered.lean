import Transit.Gateway.Realtime
set_option autoImplicit false

/-!
# What is remembered of the warehouse

A look-up leaves its own answer behind and changes no other (`Remembers`). So however many look-ups
have been made in between, each is answered as it would have been at first, and what a memory says
can be named by functions of the key: the feeds of a feed version, the GTFS id of a trip or a stop,
a route, the zone of a stop.
-/

namespace Transit

namespace IdCache

variable {α κ ν : Type} {w : Warehouse} {c d e : IdCache}

def feeds? (w : Warehouse) (c : IdCache) (version : Int) : Except LookupError (List String) :=
  (c.realtimeFeeds.lookup version).elim (w.realtimeFeeds version) .ok

def tripId? (w : Warehouse) (c : IdCache) (id : Int) : Option String :=
  (c.tripIds.lookup id).getD ((w.trip? id).map (·.tripId))

def stopId? (w : Warehouse) (c : IdCache) (id : Int) : Option String :=
  (c.stopIds.lookup id).getD ((w.stop? id).map (·.stopId))

/-- The route with a GTFS id in a feed version. -/
def routeId? (w : Warehouse) (c : IdCache) (version : Int) (id : String) : Option Int :=
  (c.routeIds.lookup (version, id)).getD (w.routeIdOf? version id)

def zone? (w : Warehouse) (c : IdCache) (id : Int) : Option Zone :=
  (c.stopZones.lookup id).getD (zoneOfStop w id).1

/-- The zone of a stop. A known name decides alone; the stop with id 0 has no zone. -/
def stopZone? (w : Warehouse) (c : IdCache) (id : Int) (known : String) : Option Zone :=
  if known != "" then zoneNamed? known else if id == 0 then none else zone? w c id

theorem answer_feeds (w : Warehouse) (c : IdCache) (version : Int) :
    (feeds version w c).answer = feeds? w c version := by
  unfold feeds feeds?
  cases c.realtimeFeeds.lookup version with
  | some found => rfl
  | none =>
    dsimp only [Option.elim_none]
    cases w.realtimeFeeds version <;> rfl

theorem answer_tripId (w : Warehouse) (c : IdCache) (id : Int) :
    (tripId id w c).answer = .ok (tripId? w c id) := by
  unfold tripId tripId?
  cases c.tripIds.lookup id <;> rfl

theorem answer_stopId (w : Warehouse) (c : IdCache) (id : Int) :
    (stopId id w c).answer = .ok (stopId? w c id) := by
  unfold stopId stopId?
  cases c.stopIds.lookup id <;> rfl

theorem answer_routeId (w : Warehouse) (c : IdCache) (version : Int) (id : String) :
    (routeId version id w c).answer = .ok (routeId? w c version id) := by
  unfold routeId routeId?
  cases c.routeIds.lookup (version, id) <;> rfl

theorem answer_stopZone (w : Warehouse) (c : IdCache) (id : Int) (known : String) :
    (stopZone id known w c).answer = .ok (stopZone? w c id known) := by
  unfold stopZone stopZone? zone?
  split
  · rfl
  · split
    · rfl
    · cases c.stopZones.lookup id <;> rfl

/-- One memory says the same as another. -/
structure Alike (w : Warehouse) (c d : IdCache) : Prop where
  feeds : ∀ version, feeds? w d version = feeds? w c version
  tripId : ∀ id, tripId? w d id = tripId? w c id
  stopId : ∀ id, stopId? w d id = stopId? w c id
  routeId : ∀ version id, routeId? w d version id = routeId? w c version id
  zone : ∀ id, zone? w d id = zone? w c id

theorem Alike.refl (w : Warehouse) (c : IdCache) : Alike w c c :=
  ⟨fun _ => rfl, fun _ => rfl, fun _ => rfl, fun _ _ => rfl, fun _ => rfl⟩

theorem Alike.trans (first : Alike w c d) (second : Alike w d e) : Alike w c e where
  feeds version := (second.feeds version).trans (first.feeds version)
  tripId id := (second.tripId id).trans (first.tripId id)
  stopId id := (second.stopId id).trans (first.stopId id)
  routeId version id := (second.routeId version id).trans (first.routeId version id)
  zone id := (second.zone id).trans (first.zone id)

theorem Alike.stopZone (alike : Alike w c d) (id : Int) (known : String) :
    stopZone? w d id known = stopZone? w c id known := by
  rw [stopZone?, alike.zone, stopZone?]

/-- What a table says about its keys, else what is computed, does not change when something
computed is added. -/
theorem getD_lookup_cons [BEq κ] [LawfulBEq κ] {table : List (κ × ν)} {key : κ}
    (fresh : table.lookup key = none) (compute : κ → ν) (other : κ) :
    (((key, compute key) :: table).lookup other).getD (compute other) =
      (table.lookup other).getD (compute other) := by
  rw [List.lookup_cons]
  cases same : other == key with
  | false => rfl
  | true =>
    rw [eq_of_beq same, fresh]
    rfl

/-- A look-up that memories alike answer alike, and that leaves such a memory. -/
structure Remembers (lookup : Warehouse → IdCache → Remembered α) : Prop where
  answer : ∀ {w c d}, Alike w c d → (lookup w d).answer = (lookup w c).answer
  keeps : ∀ w c, Alike w c (lookup w c).cache

theorem remembers_feeds (version : Int) : Remembers (feeds version) where
  answer alike := by rw [answer_feeds, answer_feeds, alike.feeds]
  keeps w c := by
    unfold feeds
    cases known : c.realtimeFeeds.lookup version with
    | some found => exact .refl w c
    | none =>
      -- A failure is not remembered.
      cases asked : w.realtimeFeeds version with
      | error e => exact .refl w c
      | ok found =>
        refine ⟨fun other => ?_, fun _ => rfl, fun _ => rfl, fun _ _ => rfl, fun _ => rfl⟩
        unfold feeds?
        rw [List.lookup_cons]
        cases same : other == version with
        | false => rfl
        | true =>
          rw [eq_of_beq same, known, Option.elim_none, asked]
          rfl

theorem remembers_tripId (id : Int) : Remembers (tripId id) where
  answer alike := by rw [answer_tripId, answer_tripId, alike.tripId]
  keeps w c := by
    unfold tripId
    cases known : c.tripIds.lookup id with
    | some found => exact .refl w c
    | none =>
      exact ⟨fun _ => rfl, getD_lookup_cons known fun id => (w.trip? id).map Trip.tripId,
        fun _ => rfl, fun _ _ => rfl, fun _ => rfl⟩

theorem remembers_stopId (id : Int) : Remembers (stopId id) where
  answer alike := by rw [answer_stopId, answer_stopId, alike.stopId]
  keeps w c := by
    unfold stopId
    cases known : c.stopIds.lookup id with
    | some found => exact .refl w c
    | none =>
      exact ⟨fun _ => rfl, fun _ => rfl,
        getD_lookup_cons known fun id => (w.stop? id).map Stop.stopId, fun _ _ => rfl,
        fun _ => rfl⟩

theorem remembers_routeId (version : Int) (id : String) : Remembers (routeId version id) where
  answer alike := by rw [answer_routeId, answer_routeId, alike.routeId]
  keeps w c := by
    unfold routeId
    cases known : c.routeIds.lookup (version, id) with
    | some found => exact .refl w c
    | none =>
      refine ⟨fun _ => rfl, fun _ => rfl, fun _ => rfl, fun otherVersion other => ?_, fun _ => rfl⟩
      exact getD_lookup_cons known (fun key => w.routeIdOf? key.1 key.2) (otherVersion, other)

theorem remembers_stopZone (id : Int) (name : String) : Remembers (stopZone id name) where
  answer alike := by rw [answer_stopZone, answer_stopZone, alike.stopZone]
  keeps w c := by
    unfold stopZone
    split
    · exact .refl w c
    · split
      · exact .refl w c
      · cases known : c.stopZones.lookup id with
        | some found => exact .refl w c
        | none =>
          exact ⟨fun _ => rfl, fun _ => rfl, fun _ => rfl, fun _ _ => rfl,
            getD_lookup_cons known fun id => (zoneOfStop w id).1⟩

end IdCache

end Transit
