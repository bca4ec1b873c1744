import Transit.Proofs.Realtime.Tearing
import Transit.Proofs.Text.Separator
set_option autoImplicit false

/-!
# Messages by topic

The name of a feed may hold colons, but the name of a kind of message holds none, so a key is split
at its last colon. Topics of feeds that have names and the keys that are read correspond to each
other (`Topic.ofKey?_eq_some_iff`). Messages under different topics stand apart for this reason, and
vehicles are listed with the feed that they were published for (`Gateway.messages_kept_apart`).
-/

namespace Transit

open Realtime

namespace Realtime

namespace TopicKind

theorem ofName?_eq_some_iff {s : String} {k : TopicKind} : ofName? s = some k ↔ s = k.name := by
  constructor
  · intro found
    have named := List.find?_some found
    exact (eq_of_beq named).symm
  · rintro rfl
    cases k <;> decide

theorem name_injective {k l : TopicKind} (same : k.name = l.name) : k = l :=
  Option.some.inj ((ofName?_eq_some_iff.mpr rfl).symm.trans (ofName?_eq_some_iff.mpr same))

theorem noColon_name (k : TopicKind) : ':' ∉ k.name.toList := by
  cases k <;> decide

end TopicKind

namespace Topic

theorem splitLast?_eq_some_iff {cs front back : List Char} :
    splitLast? cs = some (front, back) ↔ cs = front ++ ':' :: back ∧ ':' ∉ back := by
  constructor
  · intro split
    unfold splitLast? at split
    cases tail : cs.reverse.dropWhile (· != ':') with
    | nil =>
      rw [tail] at split
      cases split
    | cons c before =>
      rw [tail] at split
      cases split
      obtain ⟨backwards, without⟩ := Text.separated_of_dropWhile tail
      refine ⟨?_, fun member => without (List.mem_reverse.mp member)⟩
      have forwards := congrArg List.reverse backwards
      rwa [List.reverse_reverse, List.reverse_append, List.reverse_cons, List.append_assoc]
        at forwards
  · rintro ⟨rfl, without⟩
    have backwards : (front ++ ':' :: back).reverse = back.reverse ++ ':' :: front.reverse := by
      rw [List.reverse_append, List.reverse_cons, List.append_assoc]
      rfl
    have solid : ':' ∉ back.reverse := fun member => without (List.mem_reverse.mp member)
    rw [splitLast?, backwards, Text.dropWhile_separated solid, Text.takeWhile_separated solid]
    simp only [List.reverse_reverse]

theorem toList_key (t : Topic) :
    t.key.toList = keyStart.toList ++ (t.feed.toList ++ ':' :: t.kind.name.toList) := by
  simp only [key, String.toList_append, List.append_assoc]
  rfl

theorem splitLast?_key (t : Topic) : splitLast? (t.key.toList.drop keyStart.length) =
    some (t.feed.toList, t.kind.name.toList) := by
  have rest : t.key.toList.drop keyStart.length = t.feed.toList ++ ':' :: t.kind.name.toList := by
    rw [toList_key]
    exact List.drop_left
  rw [rest]
  exact splitLast?_eq_some_iff.mpr ⟨rfl, t.kind.noColon_name⟩

/-- A key is read as a topic exactly if it is the key of the topic and its feed has a name. -/
theorem ofKey?_eq_some_iff {s : String} {t : Topic} :
    ofKey? s = some t ↔ t.feed ≠ "" ∧ s = t.key := by
  constructor
  · intro read
    unfold ofKey? at read
    split at read
    case isFalse => cases read
    next begins =>
    obtain ⟨rest, start⟩ := List.isPrefixOf_iff_prefix.mp begins
    have after : s.toList.drop keyStart.length = rest := by
      rw [← start]
      exact List.drop_left
    rw [after] at read
    split at read
    case h_1 => cases read
    case h_3 => cases read
    next feed kind named split =>
    obtain ⟨k, isKind, rfl⟩ := Option.map_eq_some_iff.mp read
    obtain ⟨rfl, _⟩ := splitLast?_eq_some_iff.mp split
    have isName := TopicKind.ofName?_eq_some_iff.mp isKind
    refine ⟨fun empty => ?_, ?_⟩
    · rw [String.ofList_eq_empty_iff] at empty
      exact named empty
    · rw [← String.toList_inj, toList_key, ← start, ← isName, String.toList_ofList,
        String.toList_ofList]
  · rintro ⟨named, rfl⟩
    have begins : keyStart.toList.isPrefixOf t.key.toList = true := by
      rw [List.isPrefixOf_iff_prefix, toList_key]
      exact List.prefix_append _ _
    have isKind := TopicKind.ofName?_eq_some_iff.mpr (Eq.refl t.kind.name)
    have filled : t.feed.toList ≠ [] := fun empty => named (String.toList_eq_nil_iff.mp empty)
    rw [ofKey?, if_pos begins, splitLast?_key]
    split
    next parts =>
      obtain ⟨empty, _⟩ := Prod.mk.inj (Option.some.inj parts)
      exact absurd empty filled
    next parts =>
      cases parts
      rw [String.ofList_toList, String.ofList_toList, isKind]
      rfl
    next none => cases none

theorem ofKey?_key {t : Topic} (named : t.feed ≠ "") : ofKey? t.key = some t :=
  ofKey?_eq_some_iff.mpr ⟨named, rfl⟩

/-- A topic is known by its key. -/
theorem key_injective {t u : Topic} (same : t.key = u.key) : t = u := by
  have parts := splitLast?_key t
  rw [same, splitLast?_key, Option.some.injEq, Prod.mk.injEq, String.toList_inj, String.toList_inj]
    at parts
  obtain ⟨feed, name⟩ := parts
  cases t
  cases u
  cases feed
  cases TopicKind.name_injective name
  rfl

end Topic

/-- The messages of one kind. -/
def FeedSources.ofKind (f : FeedSources) : TopicKind → Option Source
  | .tripUpdates => f.tripUpdates
  | .alerts => f.alerts
  | .vehiclePositions => f.vehiclePositions

end Realtime

namespace Publication

/-- The last message that is published for a topic. -/
def last? (ps : List Publication) (t : Topic) : Option Source :=
  (ps.filter (Topic.ofKey? ·.key == some t)).getLast?.map (·.source)

end Publication

namespace Gateway

variable {g : Gateway}

theorem ofKind_sourcesOf (g : Gateway) (t : Topic) :
    (g.sourcesOf t.feed).ofKind t.kind = g.topics.lookup t.key := by
  cases t with
  | mk feed kind => cases kind <;> rfl

theorem lookup_publishAll (g : Gateway) (ps : List Publication) (key : String) :
    (g.publishAll ps).topics.lookup key =
      ((ps.filter (·.key == key)).getLast?.map (·.source)).or (g.topics.lookup key) := by
  induction ps generalizing g with
  | nil => rfl
  | cons p rest ih =>
    have first : (g.publishAll (p :: rest)).topics.lookup key =
        ((g.publish p.key p.source).publishAll rest).topics.lookup key := rfl
    rw [first, ih, lookup_publish, List.filter_cons, BEq.comm (a := key)]
    split
    · rw [List.getLast?_cons]
      cases (rest.filter (·.key == key)).getLast? <;> rfl
    · rfl

/-- There is one entry for each key. -/
def KeysApart (g : Gateway) : Prop := (g.topics.map (·.1)).Nodup

theorem keysApart_publish (apart : g.KeysApart) (key : String) (source : Source) :
    (g.publish key source).KeysApart := by
  refine List.nodup_cons.mpr ⟨?_, ?_⟩
  · rintro member
    obtain ⟨entry, kept, rfl⟩ := List.mem_map.mp member
    simpa using (List.mem_filter.mp kept).2
  · exact List.Nodup.sublist (List.filter_sublist.map _) apart

theorem keysApart_publishAll (apart : g.KeysApart) (ps : List Publication) :
    (g.publishAll ps).KeysApart := by
  induction ps generalizing g with
  | nil => exact apart
  | cons p rest ih => exact ih (keysApart_publish apart p.key p.source)

theorem KeysApart.lookup_eq_some_iff (apart : g.KeysApart) {key : String} {source : Source} :
    g.topics.lookup key = some source ↔ (key, source) ∈ g.topics := by
  refine ⟨Loader.mem_of_lookup, fun member => ?_⟩
  cases found : g.topics.lookup key with
  | none =>
    have absent := List.lookup_eq_none_iff.mp found _ member
    simp at absent
  | some other =>
    have same := List.inj_on_of_nodup_map apart (Loader.mem_of_lookup found) member rfl
    rw [(Prod.mk.inj same).2]

/-- The vehicles in a message, if it belongs to a feed that is asked for. -/
def vehiclesUnder (filter : Option VehiclePositionFilter) (entry : String × Source) :
    List VehiclePosition :=
  match Topic.ofKey? entry.1 with
  | some ⟨feed, .vehiclePositions⟩ =>
    if filter.all fun f => f.feedOnestopIds.isEmpty || f.feedOnestopIds.contains feed then
      (entry.2.vehicles.map (VehiclePosition.ofMessage feed)).filter fun v =>
        filter.all v.matchesFilter
    else []
  | _ => []

theorem vehiclePositions_eq (g : Gateway) (limit : Nat) (filter : Option VehiclePositionFilter) :
    g.vehiclePositions limit filter =
      ((g.topics.mergeSort fun a b => a.1 ≤ b.1).flatMap (vehiclesUnder filter)).take
        (max limit 1) :=
  rfl

/-- A vehicle of a feed is what a filter asks for. -/
def Wanted (filter : Option VehiclePositionFilter) (v : VehiclePosition) : Prop :=
  ∀ f ∈ filter, (f.feedOnestopIds = [] ∨ v.feedOnestopId ∈ f.feedOnestopIds) ∧
    v.matchesFilter f = true

variable {filter : Option VehiclePositionFilter} {v : VehiclePosition}

theorem wanted_iff : Wanted filter v ↔
    (filter.all fun f =>
      f.feedOnestopIds.isEmpty || f.feedOnestopIds.contains v.feedOnestopId) = true ∧
      filter.all v.matchesFilter = true := by
  cases filter with
  | none => simp [Wanted]
  | some f => simp [Wanted]

/-- A vehicle is listed with the feed whose topic its message stands under. -/
theorem mem_vehiclesUnder_iff {key : String} {source : Source} :
    v ∈ vehiclesUnder filter (key, source) ↔ Wanted filter v ∧
      ∃ feed vehicle, feed ≠ "" ∧ key = Topic.key ⟨feed, .vehiclePositions⟩ ∧
        vehicle ∈ source.vehicles ∧ v = .ofMessage feed vehicle := by
  rw [wanted_iff]
  constructor
  · intro listed
    unfold vehiclesUnder at listed
    split at listed
    case h_2 => cases listed
    next feed isKey =>
    split at listed
    case isFalse => cases listed
    next asked =>
    obtain ⟨inMessage, matched⟩ := List.mem_filter.mp listed
    obtain ⟨vehicle, member, rfl⟩ := List.mem_map.mp inMessage
    obtain ⟨named, isKey⟩ := Topic.ofKey?_eq_some_iff.mp isKey
    exact ⟨⟨asked, matched⟩, feed, vehicle, named, isKey, member, rfl⟩
  · rintro ⟨⟨asked, matched⟩, feed, vehicle, named, rfl, member, rfl⟩
    have ofFeed : (VehiclePosition.ofMessage feed vehicle).feedOnestopId = feed := rfl
    rw [ofFeed] at asked
    unfold vehiclesUnder
    rw [Topic.ofKey?_key named]
    dsimp only
    rw [if_pos asked]
    exact List.mem_filter.mpr ⟨List.mem_map_of_mem member, matched⟩

theorem listed_iff (apart : g.KeysApart) : (∃ limit, v ∈ g.vehiclePositions limit filter) ↔
    Wanted filter v ∧ ∃ feed source vehicle, feed ≠ "" ∧
      (g.sourcesOf feed).vehiclePositions = some source ∧ vehicle ∈ source.vehicles ∧
        v = .ofMessage feed vehicle := by
  constructor
  · rintro ⟨limit, listed⟩
    rw [vehiclePositions_eq] at listed
    obtain ⟨⟨key, source⟩, member, listed⟩ := List.mem_flatMap.mp (List.mem_of_mem_take listed)
    obtain ⟨wanted, feed, vehicle, named, rfl, inMessage, isVehicle⟩ :=
      mem_vehiclesUnder_iff.mp listed
    have stored := apart.lookup_eq_some_iff.mpr (List.mem_mergeSort.mp member)
    exact ⟨wanted, feed, source, vehicle, named, stored, inMessage, isVehicle⟩
  · rintro ⟨wanted, feed, source, vehicle, named, stored, inMessage, isVehicle⟩
    let topics := g.topics.mergeSort fun a b => a.1 ≤ b.1
    have member : (Topic.key ⟨feed, .vehiclePositions⟩, source) ∈ topics :=
      List.mem_mergeSort.mpr (apart.lookup_eq_some_iff.mp stored)
    have listed : v ∈ topics.flatMap (vehiclesUnder filter) := List.mem_flatMap.mpr ⟨_, member,
      mem_vehiclesUnder_iff.mpr ⟨wanted, feed, vehicle, named, rfl, inMessage, isVehicle⟩⟩
    refine ⟨(topics.flatMap (vehiclesUnder filter)).length, ?_⟩
    rw [vehiclePositions_eq, List.take_of_length_le (Nat.le_max_left _ _)]
    exact listed

/-- In a fresh gateway a feed that has a name gets what was last published for its topics. -/
theorem ofKind_publishAll (fresh : g.topics = []) (ps : List Publication) {t : Topic}
    (named : t.feed ≠ "") :
    ((g.publishAll ps).sourcesOf t.feed).ofKind t.kind = Publication.last? ps t := by
  have forTopic : (fun p : Publication => p.key == t.key) =
      (Topic.ofKey? ·.key == some t) := by
    funext p
    rw [Bool.eq_iff_iff, beq_iff_eq, beq_iff_eq, Topic.ofKey?_eq_some_iff]
    exact (and_iff_right named).symm
  rw [ofKind_sourcesOf, lookup_publishAll, fresh, forTopic]
  exact Option.or_none

/-- A key is that of one topic only, and read as this topic if the feed has a name. So whatever is
published, under whatever keys, each feed has the last message of each kind that was published for
it, and the vehicles that are listed are those of the feeds' last messages, each with its own feed. -/
theorem messages_kept_apart (g : Gateway) (fresh : g.topics = []) (ps : List Publication) :
    let h := g.publishAll ps
    (∀ s t, Topic.ofKey? s = some t ↔ t.feed ≠ "" ∧ s = t.key) ∧
      (∀ t u : Topic, t.key = u.key → t = u) ∧
      (∀ t : Topic, t.feed ≠ "" → (h.sourcesOf t.feed).ofKind t.kind = Publication.last? ps t) ∧
      ∀ filter v, (∃ limit, v ∈ h.vehiclePositions limit filter) ↔
        Wanted filter v ∧ ∃ feed source vehicle, feed ≠ "" ∧
          Publication.last? ps ⟨feed, .vehiclePositions⟩ = some source ∧
            vehicle ∈ source.vehicles ∧ v = .ofMessage feed vehicle := by
  intro h
  have begins : g.KeysApart := by
    rw [KeysApart, fresh]
    exact List.nodup_nil
  have apart : h.KeysApart := keysApart_publishAll begins ps
  refine ⟨fun s t => Topic.ofKey?_eq_some_iff, fun t u => Topic.key_injective,
    fun t => ofKind_publishAll fresh ps, fun filter v => ?_⟩
  rw [listed_iff apart]
  refine and_congr_right fun _ => exists_congr fun feed => exists_congr fun source =>
    exists_congr fun vehicle => and_congr_right fun named => and_congr_left fun _ => ?_
  rw [← ofKind_publishAll fresh ps (t := ⟨feed, .vehiclePositions⟩) named]
  rfl

/-- The name of one feed may look like the end of another feed's key. -/
theorem messages_kept_apart_of_lookalike :
    let vehicles : Source := { vehicles := [{ stopId := some "S" }] }
    let alerts : Source := { alerts := [{}] }
    let bus : Topic := ⟨"x:realtime_alerts", .vehiclePositions⟩
    let g : Gateway := { request := .start {} {} }
    let ps : List Publication := [⟨bus.key, vehicles⟩, ⟨"rtdata:x:realtime_alerts", alerts⟩]
    let h := g.publishAll ps
    g.topics = [] ∧ Topic.ofKey? bus.key = some bus ∧
      (h.sourcesOf "x").alerts = some alerts ∧ (h.sourcesOf "x").vehiclePositions = none ∧
      (∃ limit, .ofMessage bus.feed { stopId := some "S" } ∈ h.vehiclePositions limit none) ∧
      ∀ limit, .ofMessage "x" { stopId := some "S" } ∉ h.vehiclePositions limit none := by
  intro vehicles alerts bus g ps h
  obtain ⟨read, _, stored, listed⟩ := messages_kept_apart g rfl ps
  have noFilter (v : VehiclePosition) : Wanted none v := fun _ absent => nomatch absent
  refine ⟨rfl, (read _ _).mpr ⟨by decide, rfl⟩, ?_, ?_, ?_, ?_⟩
  · exact (stored ⟨"x", .alerts⟩ (by decide)).trans (by decide)
  · exact (stored ⟨"x", .vehiclePositions⟩ (by decide)).trans (by decide)
  · refine (listed none _).mpr ⟨noFilter _, bus.feed, vehicles, _, by decide, by decide, ?_, rfl⟩
    exact List.mem_singleton_self _
  · intro limit member
    obtain ⟨_, feed, source, vehicle, _, stored, _, isVehicle⟩ := (listed none _).mp ⟨limit, member⟩
    have isFeed : "x" = feed := congrArg VehiclePosition.feedOnestopId isVehicle
    have nothing : Publication.last? ps ⟨"x", .vehiclePositions⟩ = none := by decide
    rw [← isFeed, nothing] at stored
    cases stored

end Gateway

end Transit
