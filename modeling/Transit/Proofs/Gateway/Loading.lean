import Transit.Gateway.Task
import Transit.Proofs.Loader.Submission
set_option autoImplicit false

/-!
# Loading on a gateway

A task that waits for keys moves the loader by turns in which the warehouse of the gateway answers
(`Leads`). So what it gets for a key is cancellation or what some warehouse says about the key
(`loadAll_sound`); and if the request goes on and no call is under way, it gets what the warehouse
says about every key (`loadAll_complete`).
-/

namespace Transit

namespace Gateway

/-- The loader has come from an empty one by turns in which such warehouses answered. -/
def FedBy (g : Gateway) (l : Lookup) (origin : Warehouse → Prop) : Prop :=
  ∃ capacity events, 1 ≤ capacity ∧ g.loader l = (Loader.empty capacity).run events ∧
    ∀ batch answer, (batch, answer) ∈ (Loader.empty capacity).answers events →
      ∃ w, origin w ∧ answer = .ok (l.fetch w batch.keys)

/-- The request goes on, none of its calls is under way, and only the warehouse of the gateway has
answered it. -/
structure Ready (g : Gateway) (l : Lookup) : Prop where
  calm : (g.loader l).Calm
  fed : g.FedBy l (· = g.warehouse)

theorem fedBy_startRequest (g : Gateway) (user : User) (l : Lookup) (origin : Warehouse → Prop) :
    (g.startRequest user).FedBy l origin := by
  refine ⟨Request.capacity g.settings l, [], ?_, rfl, by simp [Loader.answers]⟩
  unfold Request.capacity Settings.stopTimeCapacity Settings.loaderCapacity
  split <;> exact Nat.le_max_right _ _

theorem ready_startRequest (g : Gateway) (user : User) (l : Lookup) :
    (g.startRequest user).Ready l :=
  ⟨⟨rfl, rfl, rfl⟩, fedBy_startRequest g user l _⟩

@[simp] theorem loader_setLoader (g : Gateway) (l : Lookup) (loader : Loader l.Key l.Value) :
    (g.setLoader l loader).loader l = loader := by
  simp [setLoader, Gateway.loader, Request.setLoader]

variable {l : Lookup} {g next : Gateway} {origin : Warehouse → Prop}

/-- Nothing has changed but the loaders and the count of calls. -/
def Loaded (g next : Gateway) : Prop :=
  ∃ loaders calls, next = { g with request := { g.request with loaders }, calls }

/-- The loader has moved by turns in which the warehouse of the gateway answered. -/
structure Leads (l : Lookup) (g next : Gateway) : Prop where
  moved : ∃ events, next.loader l = (g.loader l).run events ∧
    ∀ batch answer, (batch, answer) ∈ (g.loader l).answers events →
      answer = .ok (l.fetch g.warehouse batch.keys)
  loaded : g.Loaded next

theorem Leads.warehouse (leads : Leads l g next) : next.warehouse = g.warehouse := by
  obtain ⟨_, _, same⟩ := leads.loaded
  rw [same]

theorem Leads.refl (l : Lookup) (g : Gateway) : Leads l g g :=
  ⟨⟨[], rfl, by simp [Loader.answers]⟩, _, _, rfl⟩

theorem Leads.trans {last : Gateway} (first : Leads l g next) (second : Leads l next last) :
    Leads l g last := by
  have same := first.warehouse
  obtain ⟨⟨events, moved, answered⟩, _, _, isNext⟩ := first
  obtain ⟨⟨later, movedLater, answeredLater⟩, loaders, calls, isLast⟩ := second
  refine ⟨⟨events ++ later, ?_, ?_⟩, loaders, calls, by rw [isLast, isNext]⟩
  · rw [Loader.run_append, ← moved, movedLater]
  · intro batch answer member
    rw [Loader.answers_append] at member
    rcases List.mem_append.mp member with old | new
    · exact answered batch answer old
    · rw [← moved] at new
      rw [← same]
      exact answeredLater batch answer new

theorem FedBy.leads (fed : g.FedBy l origin) (leads : Leads l g next) (here : origin g.warehouse) :
    next.FedBy l origin := by
  obtain ⟨capacity, events, positive, reached, answered⟩ := fed
  obtain ⟨⟨later, moved, answeredLater⟩, _⟩ := leads
  refine ⟨capacity, events ++ later, positive, ?_, ?_⟩
  · rw [Loader.run_append, ← reached, moved]
  · intro batch answer member
    rw [Loader.answers_append] at member
    rcases List.mem_append.mp member with old | new
    · exact answered batch answer old
    · rw [← reached] at new
      exact ⟨g.warehouse, here, answeredLater batch answer new⟩

theorem FedBy.consistent (fed : g.FedBy l origin) :
    ∃ closed given, (g.loader l).Consistent closed given ∧
      ∀ batch answer, (batch, answer) ∈ given →
        ∃ w, origin w ∧ answer = .ok (l.fetch w batch.keys) := by
  obtain ⟨capacity, events, positive, reached, answered⟩ := fed
  rw [reached]
  exact ⟨_, _, Loader.consistent_of_run capacity positive events, answered⟩

theorem leads_of_step {e : Loader.Event l.Key l.Value} (moved : next.loader l = (g.loader l).step e)
    (silent : (g.loader l).answeredBy e = []) (loaded : g.Loaded next) : Leads l g next :=
  ⟨⟨[e], moved, by simp [Loader.answers, silent]⟩, loaded⟩

theorem runBatch_leads {closed : List (Batch l.Key)} (staged : (g.loader l).Staged closed)
    {batch : Batch l.Key} (due : batch ∈ (g.loader l).waiting) :
    Leads l g (g.runBatch l batch) := by
  have begins := Loader.begin_of_due staged due
  cases stopped : (g.loader l).cancelled with
  | true =>
    rw [if_pos stopped] at begins
    have ended : g.runBatch l batch =
        g.setLoader l (((g.loader l).begin batch.id).publish batch.id) := by
      simp only [runBatch, begins.2]
      rfl
    rw [ended]
    exact ⟨⟨[.begin batch.id, .publish batch.id], loader_setLoader g l _,
      by simp [Loader.answers, Loader.answeredBy]⟩, _, _, rfl⟩
  | false =>
    rw [if_neg (by simp [stopped])] at begins
    have ended : (g.runBatch l batch).loader l = (((g.loader l).begin batch.id).complete batch.id
        (.ok (l.fetch g.warehouse batch.keys))).publish batch.id := by
      simp only [runBatch, begins.1, if_true, loader_setLoader]
      rfl
    refine ⟨⟨[.begin batch.id, .complete batch.id (.ok (l.fetch g.warehouse batch.keys)),
      .publish batch.id], ended, ?_⟩, ?_⟩
    · intro other answer member
      have found : ((g.loader l).step (.begin batch.id)).running.find? (·.id == batch.id) =
          some batch := begins.2
      simp only [Loader.answers, Loader.answeredBy, found, Option.toList_some, List.map_cons,
        List.map_nil, List.nil_append, List.append_nil, List.mem_singleton, Prod.mk.injEq] at member
      rw [member.1, member.2]
    · simp only [runBatch, begins.1, if_true]
      exact ⟨_, _, rfl⟩

theorem loader_runBatch {closed : List (Batch l.Key)} (staged : (g.loader l).Staged closed)
    {batch : Batch l.Key} {rest : List (Batch l.Key)}
    (waiting : (g.loader l).waiting = batch :: rest) :
    ((g.runBatch l batch).loader l).waiting = rest ∧
      ((g.runBatch l batch).loader l).openBatch = (g.loader l).openBatch := by
  have left := Loader.waiting_begin staged waiting
  unfold runBatch
  dsimp only
  split <;> simp [left]

theorem calm_runBatch {closed : List (Batch l.Key)} (calm : (g.loader l).Calm)
    (staged : (g.loader l).Staged closed) {batch : Batch l.Key} {rest : List (Batch l.Key)}
    (waiting : (g.loader l).waiting = batch :: rest) : ((g.runBatch l batch).loader l).Calm := by
  have begins := Loader.begin_of_due staged (show batch ∈ (g.loader l).waiting by simp [waiting])
  rw [if_neg (by simp [calm.1])] at begins
  have ended : (g.runBatch l batch).loader l = (((g.loader l).begin batch.id).complete batch.id
      (.ok (l.fetch g.warehouse batch.keys))).publish batch.id := by
    simp only [Gateway.runBatch, begins.1, if_true, loader_setLoader]
    rfl
  obtain ⟨settled, cache, calls, served⟩ := Loader.served_of_call waiting staged.waiting_nodup
    calm.1 calm.2 (.ok (l.fetch g.warehouse batch.keys))
  rw [ended, served]
  exact calm

theorem runWaiting_spec (fed : g.FedBy l origin) (here : origin g.warehouse) :
    Leads l g (g.runWaiting l) ∧ ((g.runWaiting l).loader l).waiting = [] ∧
      ((g.runWaiting l).loader l).openBatch = (g.loader l).openBatch ∧
      ((g.loader l).Calm → ((g.runWaiting l).loader l).Calm) := by
  rw [runWaiting]
  generalize due : (g.loader l).waiting = batches
  induction batches generalizing g with
  | nil => exact ⟨.refl l g, due, rfl, id⟩
  | cons batch rest ih =>
    obtain ⟨_, _, consistent, _⟩ := fed.consistent
    have staged := consistent.staged
    have first := runBatch_leads staged (show batch ∈ (g.loader l).waiting by simp [due])
    obtain ⟨left, isOpen⟩ := loader_runBatch staged due
    obtain ⟨others, none, sameOpen, calm⟩ :=
      ih (fed.leads first here) (first.warehouse ▸ here) left
    exact ⟨first.trans others, none, sameOpen.trans isOpen,
      fun before => calm (calm_runBatch before staged due)⟩

theorem expireOpen_spec (g : Gateway) (l : Lookup) :
    Leads l g (g.expireOpen l) ∧ ((g.expireOpen l).loader l).openBatch = none ∧
      ((g.loader l).Calm → ((g.expireOpen l).loader l).Calm) := by
  unfold expireOpen
  cases isOpen : (g.loader l).openBatch with
  | none => exact ⟨.refl l g, isOpen, id⟩
  | some batch =>
    have closes : (g.loader l).expire batch.id = (g.loader l).close batch := by
      simp [Loader.expire, isOpen, Loader.close]
    dsimp only
    refine ⟨leads_of_step (e := .expire batch.id) (loader_setLoader g l _) rfl ⟨_, _, rfl⟩, ?_, ?_⟩
    · rw [loader_setLoader, closes]
      rfl
    · intro calm
      rw [loader_setLoader, closes]
      exact calm

/-- A loader that settles moves by turns in which the warehouse answers, and stops only when
something is seen in every slot or nothing is left to do. -/
theorem settle_spec (fed : g.FedBy l origin) (here : origin g.warehouse)
    (slots : List (Except LoadError Slot)) :
    Leads l g (g.settle l slots) ∧ ((g.loader l).Calm → ((g.settle l slots).loader l).Calm) ∧
      ((((g.settle l slots).loader l).peekAll? slots).isSome ∨
        ((g.settle l slots).loader l).openBatch = none ∧
          ((g.settle l slots).loader l).waiting = []) := by
  obtain ⟨waited, _, _, calmWaited⟩ := runWaiting_spec fed here
  unfold settle
  split
  case isTrue seen => exact ⟨.refl l g, id, .inl seen⟩
  dsimp only
  split
  case isTrue seen => exact ⟨waited, calmWaited, .inl seen⟩
  have fedWaited := fed.leads waited here
  have hereWaited := waited.warehouse ▸ here
  obtain ⟨expired, noOpen, calmExpired⟩ := expireOpen_spec (g.runWaiting l) l
  obtain ⟨last, noWaiting, sameOpen, calmLast⟩ := runWaiting_spec
    (fedWaited.leads expired hereWaited) (expired.warehouse ▸ hereWaited)
  exact ⟨(waited.trans expired).trans last, fun calm => calmLast (calmExpired (calmWaited calm)),
    .inr ⟨sameOpen.trans noOpen, noWaiting⟩⟩

/-- What a task gets that waits for some keys while no other task runs. -/
def loadAll (g : Gateway) (l : Lookup) (keys : List l.Key) :
    List (Except LoadError l.Value) × Gateway :=
  let (slots, loader) := (g.loader l).submitAll keys
  let g := (g.setLoader l loader).settle l slots
  (((g.loader l).peekAll? slots).getD [], g)

theorem submitAll_leads (g : Gateway) (l : Lookup) (keys : List l.Key) :
    Leads l g (g.setLoader l ((g.loader l).submitAll keys).2) := by
  refine ⟨⟨keys.map .submit, ?_, ?_⟩, _, _, rfl⟩
  · rw [loader_setLoader, Loader.submitAll_run]
  · intro batch answer member
    rw [Loader.answers_submits] at member
    contradiction

theorem loadAll_leads (fed : g.FedBy l origin) (here : origin g.warehouse) (keys : List l.Key) :
    Leads l g (g.loadAll l keys).2 :=
  (submitAll_leads g l keys).trans
    (settle_spec (fed.leads (submitAll_leads g l keys) here) here _).1

/-- The look-up of each key stands on its own. -/
def Separate (l : Lookup) (value : Warehouse → l.Key → Except LookupError l.Value) : Prop :=
  ∀ w keys, l.fetch w keys = keys.map (value w)

variable {value : Warehouse → l.Key → Except LookupError l.Value}

/-- The look-up of this key stands on its own, whatever else is asked for in its batch. -/
structure Apart (l : Lookup) (value : Warehouse → l.Key → Except LookupError l.Value) (key : l.Key) :
    Prop where
  sized : ∀ w keys, (l.fetch w keys).length = keys.length
  own : ∀ w keys (index : Nat), keys[index]? = some key →
    (l.fetch w keys)[index]? = some (value w key)

theorem Separate.apart (separate : Separate l value) (key : l.Key) : Apart l value key := by
  refine ⟨fun w keys => ?_, fun w keys index carried => ?_⟩
  · rw [separate, List.length_map]
  · rw [separate, List.getElem?_map, carried]
    rfl

theorem Apart.gives {key : l.Key} (apart : Apart l value key) (w : Warehouse) (batch : Batch l.Key) :
    Loader.Gives batch (.ok (l.fetch w batch.keys)) key (value w key) :=
  Loader.gives_of_entries (apart.sized w batch.keys) (apart.own w batch.keys)

/-- What is seen for a key after a wait is cancellation or what some warehouse says about it. -/
theorem settled_sound (fed : g.FedBy l origin) (here : origin g.warehouse) {keys : List l.Key}
    (apart : ∀ key ∈ keys, Apart l value key) {seen : List (Except LoadError l.Value)}
    (peeked : ((g.loadAll l keys).2.loader l).peekAll? ((g.loader l).submitAll keys).1 =
      some seen) :
    List.Forall₂ (fun key got =>
      (got = .error .cancelled ∧ ((g.loadAll l keys).2.loader l).cancelled = true) ∨
        ∃ w, origin w ∧ got = LoadError.ofEntry (value w key)) keys seen := by
  obtain ⟨closed, given, consistent, fetched⟩ := fed.consistent
  have promised := consistent.promised keys
  have submitted := consistent.run (keys.map .submit)
  rw [← Loader.submitAll_run] at submitted
  have silent := Loader.answers_submits (g.loader l) keys
  obtain ⟨⟨⟨events, moved, answered⟩, _⟩, _⟩ := settle_spec
    (fed.leads (submitAll_leads g l keys) here) here ((g.loader l).submitAll keys).1
  rw [loader_setLoader] at moved answered
  have ended := moved ▸ submitted.run events
  refine (moved ▸ promised.run events).sound ended ?_ peeked
  intro batch answer member
  rw [silent, List.append_nil] at member
  rcases List.mem_append.mp member with old | new
  · obtain ⟨w, isOrigin, rfl⟩ := fetched batch answer old
    exact ⟨w, isOrigin, fun key member => (apart key member).gives w batch⟩
  · obtain rfl := answered batch answer new
    exact ⟨g.warehouse, here, fun key member => (apart key member).gives g.warehouse batch⟩

/-- A request that goes on gets to see something in every slot. -/
theorem settled_seen (ready : g.Ready l) (keys : List l.Key) :
    ((g.loadAll l keys).2.loader l).Calm ∧ ∃ seen,
      ((g.loadAll l keys).2.loader l).peekAll? ((g.loader l).submitAll keys).1 = some seen := by
  obtain ⟨closed, given, consistent, _⟩ := ready.fed.consistent
  have promised := consistent.promised keys
  have submitted := consistent.run (keys.map .submit)
  rw [← Loader.submitAll_run] at submitted
  have calm := ready.calm.submitAll keys
  have handed := promised.handed calm.1
  obtain ⟨leads, keeps, ended⟩ := settle_spec
    (ready.fed.leads (submitAll_leads g l keys) rfl) rfl ((g.loader l).submitAll keys).1
  rw [loader_setLoader] at keeps
  refine ⟨keeps calm, ?_⟩
  rcases ended with seen | ⟨noOpen, noWaiting⟩
  · exact Option.isSome_iff_exists.mp seen
  · obtain ⟨⟨events, moved, _⟩, _⟩ := leads
    rw [loader_setLoader] at moved
    have staged := (moved ▸ submitted.run events).staged
    have carried := handed.mono fun slot key carries => moved ▸ carries.run events
    refine carried.seen ?_
    intro slot key carries
    exact Loader.peek_of_idle staged (keeps calm) ⟨noOpen, noWaiting⟩ carries

/-- What is got by a wait is nothing, or for each key cancellation or what some warehouse says. -/
theorem loadAll_sound (fed : g.FedBy l origin) (here : origin g.warehouse) {keys : List l.Key}
    (apart : ∀ key ∈ keys, Apart l value key) :
    (g.loadAll l keys).1 = [] ∨ List.Forall₂ (fun key got => got = .error .cancelled ∨
      ∃ w, origin w ∧ got = LoadError.ofEntry (value w key)) keys (g.loadAll l keys).1 := by
  cases peeked : ((g.loadAll l keys).2.loader l).peekAll? ((g.loader l).submitAll keys).1 with
  | none =>
    left
    exact congrArg (·.getD []) peeked
  | some seen =>
    right
    have got : (g.loadAll l keys).1 = seen := congrArg (·.getD []) peeked
    rw [got]
    refine (settled_sound fed here apart peeked).imp ?_
    intro key value either
    exact either.imp_left And.left

/-- A request that goes on gets what the warehouse says about each key. -/
theorem loadAll_complete (ready : g.Ready l) {keys : List l.Key}
    (apart : ∀ key ∈ keys, Apart l value key) :
    (g.loadAll l keys).1 = keys.map fun key => LoadError.ofEntry (value g.warehouse key) := by
  obtain ⟨calm, seen, peeked⟩ := settled_seen ready keys
  have got : (g.loadAll l keys).1 = seen := congrArg (·.getD []) peeked
  rw [got]
  have each : List.Forall₂ (fun key got => LoadError.ofEntry (value g.warehouse key) = got)
      keys seen := by
    refine (settled_sound ready.fed rfl apart peeked).imp ?_
    intro key got either
    rcases either with ⟨_, stopped⟩ | ⟨w, rfl, rfl⟩
    · rw [calm.1] at stopped
      contradiction
    · rfl
  rw [← List.forall₂_map_left_iff, List.forall₂_eq_eq_eq] at each
  exact each.symm

end Gateway

end Transit
