import Transit.Proofs.Field.Shown
import Transit.Proofs.Gateway.Consulting
set_option autoImplicit false

/-!
# Snapshots while messages arrive

A task may run while others publish messages (`Task.runAmid`); so does a snapshot in a queue that
gives way to others (`Task.snapshot_in_turns`). A snapshot reads the messages of its feeds one feed
after another, each at a moment of its own, and these moments follow one another (`Task.ReadAt`). So
it shows a state that the gateway was in at some moment as long as all feeds but one keep their
messages from the first read to the last; a snapshot of two feeds or more can show a state that the
gateway never was in.
-/

namespace Transit

/-- A message that is put under a topic key. -/
structure Publication where
  key : String
  source : Realtime.Source
  deriving DecidableEq, Repr, Inhabited

namespace Gateway

def publishAll (g : Gateway) (ps : List Publication) : Gateway :=
  ps.foldl (fun g p => g.publish p.key p.source) g

/-- The gateway before some publications, between them and after them. -/
def moments : Gateway → List Publication → List Gateway
  | g, [] => [g]
  | g, p :: rest => g :: (g.publish p.key p.source).moments rest

theorem publishAll_mem_moments (g : Gateway) (ps : List Publication) :
    g.publishAll ps ∈ g.moments ps := by
  induction ps generalizing g with
  | nil => exact List.mem_singleton_self g
  | cons p rest ih => exact List.mem_cons_of_mem g (ih _)

theorem mem_moments_self (g : Gateway) (ps : List Publication) : g ∈ g.moments ps := by
  cases ps <;> exact List.mem_cons_self

theorem Lasting.moments {R : Gateway → Gateway → Prop} (lasting : Lasting R)
    (publishes : ∀ g key source, R g (g.publish key source)) (g : Gateway) (ps : List Publication) :
    ∀ m ∈ g.moments ps, R g m := by
  induction ps generalizing g with
  | nil => exact List.forall_mem_singleton.mpr (lasting.refl g)
  | cons p rest ih =>
    exact List.forall_mem_cons.mpr
      ⟨lasting.refl g, fun m member => lasting.trans (publishes g _ _) (ih _ m member)⟩

theorem publishAll_frame (g : Gateway) (ps : List Publication) :
    ∃ topics, g.publishAll ps = { g with topics } := by
  induction ps generalizing g with
  | nil => exact ⟨g.topics, rfl⟩
  | cons p rest ih =>
    obtain ⟨topics, published⟩ := ih (g.publish p.key p.source)
    exact ⟨topics, published⟩

theorem lookup_filter_bne {ν : Type} {key other : String} (different : (other == key) = false)
    (table : List (String × ν)) : (table.filter (·.1 != key)).lookup other = table.lookup other := by
  induction table with
  | nil => rfl
  | cons entry rest ih =>
    rw [List.filter_cons, List.lookup_cons]
    by_cases replaced : entry.1 = key
    · simp only [replaced, bne_self_eq_false, Bool.false_eq_true, if_false, different, ih]
    · rw [if_pos (bne_iff_ne.mpr replaced), List.lookup_cons, ih]

theorem lookup_publish (g : Gateway) (key : String) (source : Realtime.Source) (other : String) :
    (g.publish key source).topics.lookup other =
      if other == key then some source else g.topics.lookup other := by
  rw [publish, List.lookup_cons]
  cases different : other == key with
  | true => rfl
  | false => exact lookup_filter_bne different g.topics

/-- A feed version has the feeds that it had. -/
def SameFeeds (version : Int) (g h : Gateway) : Prop :=
  IdCache.feeds? h.warehouse h.ids version = IdCache.feeds? g.warehouse g.ids version

theorem Consulted.sameFeeds {g h : Gateway} (version : Int) (consulted : Consulted g h) :
    SameFeeds version g h := by
  rw [SameFeeds, consulted.warehouse, consulted.ids.feeds]

theorem lasting_sameFeeds (version : Int) : Lasting (SameFeeds version) :=
  .of_loaded (fun first second => second.trans first)
    (fun loaded fed => (loaded.consulted fed).sameFeeds version)

end Gateway

namespace Task

variable {α β : Type} {R : Gateway → Gateway → Prop}

/-- Run a task while others publish messages: what they publish before each of its steps and before
its end is listed, as far as they publish anything. With the value of the task come the moments from
its start to its end. -/
def runAmid : Task α → List (List Publication) → Gateway → α × List Gateway
  | .done a, others, g => (a, g.moments (others.headD []))
  | .act change next, others, g =>
    let reached := g.publishAll (others.headD [])
    ((next reached).runAmid others.tail (change reached)).map id (g.moments (others.headD []) ++ ·)
  | .load l keys next, others, g =>
    let loaded := (g.publishAll (others.headD [])).loadAll l keys
    ((next loaded.1).runAmid others.tail loaded.2).map id (g.moments (others.headD []) ++ ·)

theorem runAmid_map (t : Task α) (f : α → β) (others : List (List Publication)) (g : Gateway) :
    (t >>= fun a => pure (f a)).runAmid others g = (t.runAmid others g).map f id := by
  induction t generalizing others g with
  | done a => rfl
  | act change next ih => exact congrArg (Prod.map id _) (ih _ _ _)
  | load l keys next ih => exact congrArg (Prod.map id _) (ih _ _ _)

/-- All moments of a run are within a relation that its steps and publications stay within. -/
theorem Within.moments {t : Task α} (within : t.Within R) (lasting : Gateway.Lasting R)
    (publishes : ∀ g key source, R g (g.publish key source)) (others : List (List Publication))
    (g : Gateway) : ∀ m ∈ (t.runAmid others g).2, R g m := by
  induction t generalizing others g with
  | done a => exact lasting.moments publishes g _
  | act change next ih =>
    have before := lasting.moments publishes g (others.headD [])
    refine List.forall_mem_append.mpr ⟨before, fun m member => ?_⟩
    have stepped := lasting.trans (before _ (g.publishAll_mem_moments _)) (within.1 _)
    exact lasting.trans stepped (ih _ (within.2 _) others.tail _ m member)
  | load l keys next ih =>
    have before := lasting.moments publishes g (others.headD [])
    refine List.forall_mem_append.mpr ⟨before, fun m member => ?_⟩
    have loaded := lasting.trans (before _ (g.publishAll_mem_moments _)) (lasting.loadAll _ l keys)
    exact lasting.trans loaded (ih _ (within _) others.tail _ m member)

theorem start_mem_moments (t : Task α) (others : List (List Publication)) (g : Gateway) :
    g ∈ (t.runAmid others g).2 := by
  have first := g.mem_moments_self (others.headD [])
  cases t with
  | done a => exact first
  | act change next => exact List.mem_append_left _ first
  | load l keys next => exact List.mem_append_left _ first

/-! ## Tasks that give way -/

/-- A task that waits for no keys. -/
def Plain : Task α → Prop
  | .done _ => True
  | .act _ next => ∀ g, (next g).Plain
  | .load .. => False

theorem Plain.bind {t : Task α} {f : α → Task β} (first : t.Plain) (rest : ∀ a, (f a).Plain) :
    (t >>= f).Plain := by
  induction t with
  | done a => exact rest a
  | act change next ih => exact fun g => ih g (first g)
  | load l keys next => exact first.elim

theorem runAmid_publishAll (t : Task α) (ps : List Publication) (g : Gateway) :
    (t.runAmid [ps] g).1 = (t.runAmid [] (g.publishAll ps)).1 := by
  cases t <;> rfl

theorem paused_injective {t u : Task α} (same : Poll.paused t = .paused u) : t = u := by
  obtain ⟨-, -, next⟩ := Poll.blocked.inj same
  exact congrFun (eq_of_heq next) []

/-- What a task has left when it gives way runs as the task does amid others that publish nothing in
its first steps. -/
theorem runAmid_of_paused {t rest : Task α} (plain : t.Plain) {steps left : Nat} {g h : Gateway}
    (gaveWay : t.pollFor steps g = (.paused rest, left, h)) :
    rest.Plain ∧ ∀ others,
      (t.runAmid (List.replicate steps [] ++ others) g).1 = (rest.runAmid others h).1 := by
  induction t generalizing steps g with
  | done a => cases gaveWay
  | act change next ih =>
    cases steps with
    | zero =>
      obtain ⟨same, rest⟩ := Prod.mk.inj gaveWay
      obtain rfl := paused_injective same
      obtain ⟨-, rfl⟩ := Prod.mk.inj rest
      exact ⟨plain, fun others => rfl⟩
    | succ steps => exact ih g (plain g) gaveWay
  | load l keys next => exact plain.elim

theorem runAmid_of_finished {t : Task α} (plain : t.Plain) {steps left : Nat} {g h : Gateway}
    {a : α} (finished : t.pollFor steps g = (.finished a, left, h)) : (t.runAmid [] g).1 = a := by
  induction t generalizing steps g with
  | done b =>
    cases finished
    rfl
  | act change next ih =>
    cases steps with
    | zero => cases finished
    | succ steps => exact ih g (plain g) finished
  | load l keys next => exact plain.elim

/-! ## Snapshots -/

/-- Reading the messages of some feeds takes one step for each of them. -/
theorem runAmid_readFeeds_cons (feed : String) (rest : List String)
    (others : List (List Publication)) (g : Gateway) :
    (readFeeds (feed :: rest)).runAmid others g =
      ((readFeeds rest).runAmid others.tail (g.publishAll (others.headD []))).map
        ((g.publishAll (others.headD [])).sourcesOf feed :: ·)
        (g.moments (others.headD []) ++ ·) :=
  congrArg (Prod.map id _) (runAmid_map (readFeeds rest) _ others.tail _)

theorem runAmid_snapshot {g : Gateway} {version : Int} {feeds : List String}
    (known : IdCache.feeds? g.warehouse g.ids version = .ok feeds)
    (others : List (List Publication)) :
    ∃ looked : Gateway, looked.topics = (g.publishAll (others.headD [])).topics ∧
      (snapshot version).runAmid others g =
        ((readFeeds feeds).runAmid others.tail looked).map (fun found => .ok ⟨found⟩)
          (g.moments (others.headD []) ++ ·) := by
  let reached := g.publishAll (others.headD [])
  let found := IdCache.feeds version reached.warehouse reached.ids
  let looked := { reached with ids := found.cache, calls := found.calls.reverse ++ reached.calls }
  have answered : found.answer = .ok feeds := by
    obtain ⟨topics, frame⟩ := g.publishAll_frame (others.headD [])
    rw [IdCache.answer_feeds, ← known]
    simp only [reached, frame]
  obtain ⟨rest, split, readsFeeds⟩ : ∃ rest : Except LookupError (List String) → _,
      snapshot version = (remember (IdCache.feeds version) >>= rest) ∧
        rest (.ok feeds) = (readFeeds feeds >>= fun found => pure (.ok ⟨found⟩)) :=
    ⟨_, rfl, rfl⟩
  have later : (rest found.answer).runAmid others.tail looked =
      ((readFeeds feeds).runAmid others.tail looked).map (fun found => .ok ⟨found⟩) id := by
    rw [answered, readsFeeds]
    exact runAmid_map _ _ _ _
  refine ⟨looked, rfl, ?_⟩
  rw [split]
  exact congrArg (Prod.map id _) later

theorem plain_readFeeds (feeds : List String) : (readFeeds feeds).Plain := by
  induction feeds with
  | nil => trivial
  | cons feed rest ih => exact fun _ => ih.bind fun _ => trivial

theorem plain_snapshot (version : Int) : (snapshot version).Plain := by
  have remembered : (remember (IdCache.feeds version)).Plain := fun _ => trivial
  refine remembered.bind fun found => ?_
  cases found with
  | error e => trivial
  | ok feeds => exact (plain_readFeeds feeds).bind fun _ => trivial

/-- A snapshot that gives way in a queue, and goes on when others have published something, answers
as it does amid their publications. -/
theorem snapshot_in_turns {version : Int} {steps more left last : Nat} {g h after : Gateway}
    {rest : Task (Except LookupError Realtime.Snapshot)} {ps : List Publication}
    {answer : Except LookupError Realtime.Snapshot}
    (gaveWay : (snapshot version).pollFor steps g = (.paused rest, left, h))
    (finished : rest.pollFor more (h.publishAll ps) = (.finished answer, last, after)) :
    ((snapshot version).runAmid (List.replicate steps [] ++ [ps]) g).1 = answer := by
  obtain ⟨plainRest, same⟩ := runAmid_of_paused (plain_snapshot version) gaveWay
  rw [same, runAmid_publishAll, runAmid_of_finished plainRest finished]

/-- The feeds of a snapshot have been read one after another, each at a moment of its own. -/
structure ReadAt (feeds : List String)
    (ran : Except LookupError Realtime.Snapshot × List Gateway) (reads : List Gateway) : Prop where
  ordered : reads.Sublist ran.2
  each : reads.length = feeds.length
  value : ran.1 = .ok ⟨List.zipWith Gateway.sourcesOf reads feeds⟩

/-- A snapshot shows the messages as they were at one moment of its run. -/
def Whole (version : Int) (ran : Except LookupError Realtime.Snapshot × List Gateway) : Prop :=
  ∃ m ∈ ran.2, ran.1 = m.snapshotOf version

/-- A feed has the same messages at some moments. -/
def Steady (reads : List Gateway) (feed : String) : Prop :=
  ∀ r ∈ reads, ∀ s ∈ reads, r.sourcesOf feed = s.sourcesOf feed

theorem readFeeds_reads (feeds : List String) (others : List (List Publication)) (g : Gateway) :
    ∃ reads, reads.Sublist ((readFeeds feeds).runAmid others g).2 ∧ reads.length = feeds.length ∧
      ((readFeeds feeds).runAmid others g).1 = List.zipWith Gateway.sourcesOf reads feeds := by
  induction feeds generalizing others g with
  | nil => exact ⟨[], List.nil_sublist _, rfl, rfl⟩
  | cons feed rest ih =>
    obtain ⟨reads, ordered, each, value⟩ := ih others.tail (g.publishAll (others.headD []))
    refine ⟨g.publishAll (others.headD []) :: reads, ?_⟩
    rw [runAmid_readFeeds_cons]
    have first := List.singleton_sublist.mpr (g.publishAll_mem_moments (others.headD []))
    exact ⟨first.append ordered, congrArg (· + 1) each, congrArg (_ :: ·) value⟩

variable {g : Gateway} {version : Int} {feeds : List String}

theorem snapshot_readAt (known : IdCache.feeds? g.warehouse g.ids version = .ok feeds)
    (others : List (List Publication)) :
    ∃ reads, ReadAt feeds ((snapshot version).runAmid others g) reads := by
  obtain ⟨looked, -, ran⟩ := runAmid_snapshot known others
  obtain ⟨reads, ordered, each, value⟩ := readFeeds_reads feeds others.tail looked
  refine ⟨reads, ?_⟩
  rw [ran]
  exact ⟨List.sublist_append_of_sublist_right ordered, each, by rw [Prod.map_fst, value]⟩

/-- The feeds that bear on a feed version stay the same while a snapshot is made. -/
theorem snapshotOf_moment (known : IdCache.feeds? g.warehouse g.ids version = .ok feeds)
    (others : List (List Publication)) {m : Gateway}
    (member : m ∈ ((snapshot version).runAmid others g).2) :
    m.snapshotOf version = .ok ⟨feeds.map m.sourcesOf⟩ := by
  have within := (consults_snapshot version).mono fun _ _ => Gateway.Consulted.sameFeeds version
  have same := within.moments (Gateway.lasting_sameFeeds version) (fun _ _ _ => rfl) others g m member
  rw [Gateway.snapshotOf, same, known]
  rfl

/-! ### Snapshots of one moment -/

theorem zipWith_sourcesOf {reads : List Gateway} {i : Nat} {m : Gateway} (inside : i < reads.length)
    (each : reads.length = feeds.length) (here : reads[i] = m)
    (steady : ∀ feed ∈ feeds.eraseIdx i, Steady reads feed) :
    List.zipWith Gateway.sourcesOf reads feeds = feeds.map m.sourcesOf := by
  refine List.ext_getElem (by simp [each]) fun j below bound => ?_
  rw [List.getElem_zipWith, List.getElem_map]
  by_cases same : j = i
  · subst same
    rw [here]
  · have readHere : j < reads.length := by simp at below; omega
    have listed : j < feeds.length := by omega
    have kept := steady feeds[j] (List.mem_eraseIdx_iff_getElem.mpr ⟨j, listed, same, rfl⟩)
    exact kept _ (List.getElem_mem readHere) m (here ▸ List.getElem_mem inside)

/-- A snapshot is whole if all of its feeds but one have the same messages at all reads. -/
theorem ReadAt.whole {ran : Except LookupError Realtime.Snapshot × List Gateway}
    {reads : List Gateway} (read : ReadAt feeds ran reads) (started : ran.2 ≠ [])
    (shows : ∀ m ∈ ran.2, m.snapshotOf version = .ok ⟨feeds.map m.sourcesOf⟩) {i : Nat}
    (steady : ∀ feed ∈ feeds.eraseIdx i, Steady reads feed) : Whole version ran := by
  obtain ⟨ordered, each, value⟩ := read
  -- The moment is that of the feed that is left out; any read will do if there is none.
  have at_moment {j : Nat} (inside : j < reads.length)
      (others : ∀ feed ∈ feeds.eraseIdx j, Steady reads feed) : Whole version ran := by
    have member := ordered.subset (List.getElem_mem inside)
    exact ⟨reads[j], member, by rw [value, shows _ member, zipWith_sourcesOf inside each rfl others]⟩
  by_cases inside : i < reads.length
  · exact at_moment inside steady
  · have all : ∀ feed ∈ feeds, Steady reads feed := by
      rwa [List.eraseIdx_of_length_le (by omega)] at steady
    cases reads with
    | nil =>
      obtain ⟨m, member⟩ := List.exists_mem_of_ne_nil _ started
      have none : feeds = [] := List.eq_nil_of_length_eq_zero each.symm
      exact ⟨m, member, by rw [value, shows m member, none]; rfl⟩
    | cons first rest =>
      exact at_moment (j := 0) (Nat.succ_pos _) fun feed listed =>
        all feed (List.mem_of_mem_eraseIdx listed)

/-! ### Torn snapshots -/

theorem moments_readFeeds_nil (feeds : List String) (g : Gateway) :
    ∀ m ∈ ((readFeeds feeds).runAmid [] g).2, m = g := by
  induction feeds generalizing g with
  | nil => exact fun m member => List.mem_singleton.mp member
  | cons feed rest ih =>
    rw [runAmid_readFeeds_cons]
    exact List.forall_mem_cons.mpr ⟨rfl, ih g⟩

/-- There are messages that are not under either of two keys. -/
theorem exists_news (g : Gateway) (key other : String) : ∃ source : Realtime.Source,
    g.topics.lookup key ≠ some source ∧ g.topics.lookup other ≠ some source := by
  let stamp (held : Option Realtime.Source) : Nat := (held.bind (·.timestamp)).getD 0
  let newest := stamp (g.topics.lookup key) + stamp (g.topics.lookup other) + 1
  refine ⟨{ timestamp := some newest }, fun held => ?_, fun held => ?_⟩
  all_goals
    have same : stamp (some { timestamp := some newest }) = newest := rfl
    rw [← held] at same
    omega

/-- The key of what a feed says about trips. -/
def tripsKey (feed : String) : String := Realtime.Topic.key ⟨feed, .tripUpdates⟩

/-- Others publish a message for two feeds when only the first of them has been read. -/
def betweenReads (first second : String) (source : Realtime.Source) : List (List Publication) :=
  [[], [], [⟨tripsKey first, source⟩, ⟨tripsKey second, source⟩]]

/-- The first feed is read before both messages come and the second one after; at no moment is there
anything but the old messages, the message for the first feed, or both messages. -/
theorem runAmid_betweenReads {first second : String} {rest : List String}
    (known : IdCache.feeds? g.warehouse g.ids version = .ok (first :: second :: rest))
    (source : Realtime.Source) :
    ∃ early middle late : Gateway, early.topics = g.topics ∧
      middle = early.publish (tripsKey first) source ∧
      late = middle.publish (tripsKey second) source ∧
      (∃ others, ((snapshot version).runAmid (betweenReads first second source) g).1 =
        .ok ⟨early.sourcesOf first :: late.sourcesOf second :: others⟩) ∧
      ∀ m ∈ ((snapshot version).runAmid (betweenReads first second source) g).2,
        m.topics = g.topics ∨ m = middle ∨ m = late := by
  obtain ⟨early, unchanged, ran⟩ := runAmid_snapshot known (betweenReads first second source)
  have before : early.topics = g.topics := unchanged
  let middle := early.publish (tripsKey first) source
  let late := middle.publish (tripsKey second) source
  have read : (readFeeds (first :: second :: rest)).runAmid (betweenReads first second source).tail
      early = (early.sourcesOf first :: late.sourcesOf second :: ((readFeeds rest).runAmid [] late).1,
        early :: early :: middle :: late :: ((readFeeds rest).runAmid [] late).2) := by
    rw [runAmid_readFeeds_cons, runAmid_readFeeds_cons]
    rfl
  refine ⟨early, middle, late, before, rfl, rfl, ?_⟩
  rw [ran, read]
  refine ⟨⟨_, rfl⟩, fun m member => ?_⟩
  rcases List.mem_append.mp member with start | reading
  · exact .inl (List.mem_singleton.mp start ▸ rfl)
  · simp only [List.mem_cons] at reading
    rcases reading with rfl | rfl | rfl | rfl | last
    · exact .inl before
    · exact .inl before
    · exact .inr (.inl rfl)
    · exact .inr (.inr rfl)
    · exact .inr (.inr (moments_readFeeds_nil _ _ m last))

/-- The snapshot then shows the old messages of the first feed and the new ones of the second. -/
theorem not_whole_betweenReads {first second : String} {rest : List String}
    (known : IdCache.feeds? g.warehouse g.ids version = .ok (first :: second :: rest))
    {source : Realtime.Source} (newFirst : g.topics.lookup (tripsKey first) ≠ some source)
    (newSecond : g.topics.lookup (tripsKey second) ≠ some source) :
    ¬ Whole version ((snapshot version).runAmid (betweenReads first second source) g) := by
  rintro ⟨m, member, same⟩
  obtain ⟨early, middle, late, before, rfl, rfl, ⟨others, shown⟩, between⟩ :=
    runAmid_betweenReads known source
  rw [snapshotOf_moment known _ member, shown, List.map_cons, List.map_cons, Except.ok.injEq,
    Realtime.Snapshot.mk.injEq, List.cons.injEq, List.cons.injEq] at same
  have oldFirst : g.topics.lookup (tripsKey first) = m.topics.lookup (tripsKey first) :=
    before ▸ congrArg Realtime.FeedSources.tripUpdates same.1
  have readSecond := congrArg Realtime.FeedSources.tripUpdates same.2.1
  simp only [Gateway.sourcesOf] at readSecond
  -- A quiet moment lacks what was read of the second feed; any other has news of the first.
  rcases between m member with quiet | rfl | rfl
  · refine newSecond ?_
    rw [← quiet]
    simpa [tripsKey, Gateway.lookup_publish] using readSecond.symm
  all_goals exact newFirst (oldFirst.trans (by simp [Gateway.lookup_publish]))

/-- Two feeds whose messages bear on one feed version. -/
def twoFeeds : Gateway where
  warehouse := {
    feeds := [{ id := 1, onestopId := "BA", associatedFeeds := ["BA~rt"] }]
    feedVersions := [{ id := 1, feedId := 1 }] }
  request := .start {} {}

theorem torn_snapshot :
    ¬ Whole 1 ((snapshot 1).runAmid (betweenReads "BA" "BA~rt" { timestamp := some 7 }) twoFeeds) := by
  have known : IdCache.feeds? twoFeeds.warehouse twoFeeds.ids 1 = .ok ["BA", "BA~rt"] := rfl
  exact not_whole_betweenReads known nofun nofun

/-! ### Snapshots in general -/

/-- Whatever others publish, a snapshot shows each of its feeds as it was at a moment of its own,
and these moments are in the order of the feeds. It shows the messages of one moment if all feeds
but one are steady from read to read; that it does so whatever others publish is true of feed
versions with at most one feed only. -/
theorem snapshot_read_in_order (known : IdCache.feeds? g.warehouse g.ids version = .ok feeds) :
    (∀ others, ∃ reads, ReadAt feeds ((snapshot version).runAmid others g) reads ∧
      ∀ i, (∀ feed ∈ feeds.eraseIdx i, Steady reads feed) →
        Whole version ((snapshot version).runAmid others g)) ∧
    ((∀ others, Whole version ((snapshot version).runAmid others g)) ↔ feeds.length ≤ 1) := by
  have ordered (others : List (List Publication)) :
      ∃ reads, ReadAt feeds ((snapshot version).runAmid others g) reads ∧
        ∀ i, (∀ feed ∈ feeds.eraseIdx i, Steady reads feed) →
          Whole version ((snapshot version).runAmid others g) := by
    obtain ⟨reads, read⟩ := snapshot_readAt known others
    have started := List.ne_nil_of_mem (start_mem_moments (snapshot version) others g)
    have shows (m : Gateway) := snapshotOf_moment (m := m) known others
    exact ⟨reads, read, fun i steady => read.whole started shows steady⟩
  refine ⟨ordered, fun whole => ?_, fun short others => ?_⟩
  · rcases feeds with - | ⟨first, - | ⟨second, rest⟩⟩
    · exact Nat.zero_le 1
    · exact Nat.le_refl 1
    · obtain ⟨source, newFirst, newSecond⟩ := exists_news g (tripsKey first) (tripsKey second)
      exact absurd (whole _) (not_whole_betweenReads known newFirst newSecond)
  · obtain ⟨reads, -, whole⟩ := ordered others
    have none_left : feeds.eraseIdx 0 = [] := by
      rw [List.eraseIdx_zero, ← List.length_eq_zero_iff, List.length_tail]
      omega
    exact whole 0 (by simp [none_left])

theorem snapshot_read_in_order_of_two_feeds :
    IdCache.feeds? twoFeeds.warehouse twoFeeds.ids 1 = .ok ["BA", "BA~rt"] ∧
      Whole 1 ((snapshot 1).runAmid [[], [], [⟨tripsKey "BA", { timestamp := some 7 }⟩]] twoFeeds) ∧
      ¬ ∀ others, Whole 1 ((snapshot 1).runAmid others twoFeeds) := by
  have known : IdCache.feeds? twoFeeds.warehouse twoFeeds.ids 1 = .ok ["BA", "BA~rt"] := rfl
  obtain ⟨ordered, always⟩ := snapshot_read_in_order known
  refine ⟨known, ?_, fun whole => absurd (always.mp whole) (by decide)⟩
  obtain ⟨reads, read, whole⟩ := ordered [[], [], [⟨tripsKey "BA", { timestamp := some 7 }⟩]]
  have quiet : ∀ m ∈ ((snapshot 1).runAmid [[], [], [⟨tripsKey "BA", { timestamp := some 7 }⟩]]
      twoFeeds).2, m.sourcesOf "BA~rt" = { feed := "BA~rt" } := by
    decide +kernel
  refine whole 0 fun feed listed r reading s readingLater => ?_
  obtain rfl := List.mem_singleton.mp listed
  rw [quiet r (read.ordered.subset reading), quiet s (read.ordered.subset readingLater)]

end Task

end Transit
