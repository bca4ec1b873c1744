import Transit.Proofs.Loader.Chunks
import Transit.Proofs.Loader.Rounds
set_option autoImplicit false

/-!
# The queue of batches

While the main task waits for the keys that it loads, and no other task has keys left to ask for, a
batch never loses its place in the queue: it is closed behind the batches that wait, and called
behind the batches that have been called (`Loading`). All turns keep that, so when the wait is over
the calls are the whole queue (`Sound.calls_of_load`).
-/

namespace Transit

namespace Loader

variable {κ ν : Type}

/-- A batch that has not been called is not settled. -/
theorem peek_of_gathered [Inhabited ν] {l : Loader κ ν} {closed : List (Batch κ)}
    (staged : l.Staged closed) (active : l.cancelled = false) {batch : Batch κ}
    (member : batch ∈ l.gathered) {slot : Slot} (same : slot.batch = batch.id) :
    l.peek slot = none := by
  cases settled : l.settled.lookup batch.id with
  | none => simp [peek, same, settled, active]
  | some outcome =>
    have ended : batch.id ∈ l.outcomes.map (·.1) := by
      rw [outcomes, List.map_append]
      exact List.mem_append_right _ (List.mem_map_of_mem (f := (·.1)) (mem_of_lookup settled))
    rcases List.mem_append.mp member with waits | isOpen
    · have apart := (List.nodup_append.mp staged.stage_nodup).2.2
      have inStage := List.mem_append_left (l.running.map (·.id))
        (List.mem_map_of_mem (f := (·.id)) waits)
      exact absurd rfl (apart batch.id inStage batch.id ended)
    · have inStage : batch.id ∈ l.stageIds := List.mem_append_right _ ended
      obtain ⟨other, wasClosed, sameId⟩ := List.mem_map.mp (staged.stage.mem_iff.mp inStage)
      exact absurd sameId.symm (staged.open_ne_closed (by simpa using isOpen) wasClosed)

/-- Nothing is seen in all of the slots before something is seen in each. -/
theorem peek_of_peekAll [Inhabited ν] {l : Loader κ ν} {slots : List (Except LoadError Slot)}
    {seen : List (Except LoadError ν)} (all : l.peekAll? slots = some seen) {slot : Slot}
    (member : .ok slot ∈ slots) : ∃ value, l.peek slot = some value := by
  induction slots generalizing seen with
  | nil => simp at member
  | cons first rest ih =>
    cases first with
    | error e =>
      obtain ⟨others, restSeen, _⟩ := peekAll_cons_error.mp all
      exact ih restSeen (by simpa using member)
    | ok other =>
      obtain ⟨value, others, firstSeen, restSeen, _⟩ := peekAll_cons.mp all
      rcases List.mem_cons.mp member with same | later
      · exact ⟨value, Except.ok.inj same ▸ firstSeen⟩
      · exact ih restSeen later

/-- The end of a wait takes no batch from its place. -/
theorem expire_queue (l : Loader κ ν) (id : Nat) :
    (l.expire id).calls = l.calls ∧ (l.expire id).gathered = l.gathered := by
  unfold expire
  cases isOpen : l.openBatch with
  | none => exact ⟨rfl, rfl⟩
  | some batch => by_cases same : batch.id = id <;> simp [gathered, same, isOpen]

variable [DecidableEq κ]

/-- A batch that has not been called after a key has been asked for was there before, or holds the
slot of the key. -/
theorem gathered_submit {l : Loader κ ν} {key : κ} {batch : Batch κ}
    (member : batch ∈ (l.submit key).2.gathered) :
    batch ∈ l.gathered ∨ ∃ slot, (l.submit key).1 = .ok slot ∧ slot.batch = batch.id := by
  cases stopped : l.cancelled with
  | true => exact .inl (by simpa [submit, stopped] using member)
  | false =>
    cases known : l.cache.lookup key with
    | some slot => exact .inl (by simpa [submit, stopped, known] using member)
    | none =>
      have given : (l.submit key).1 = .ok ⟨l.currentBatch.id, l.currentBatch.keys.length⟩ := by
        simp [submit, stopped, known]
      have joins : (l.submit key).2 = l.join key := by simp [submit, stopped, known]
      have grows : (l.join key).gathered = l.waiting ++ [l.grown key] := by
        by_cases room : l.currentBatch.keys.length + 1 < l.capacity
        · rw [l.join_of_room key room]
          rfl
        · rw [l.join_of_full key (Nat.le_of_not_lt room)]
          exact List.append_nil _
      rw [joins, grows] at member
      rcases List.mem_append.mp member with waits | new
      · exact .inl (List.mem_append_left _ waits)
      · obtain rfl := List.mem_singleton.mp new
        exact .inr ⟨_, given, rfl⟩

/-- A batch that has not been called after some keys have been asked for has the id of one that was
there before, or of a slot that was given. -/
theorem gathered_submitAll {l : Loader κ ν} {keys : List κ} {batch : Batch κ}
    (member : batch ∈ (l.submitAll keys).2.gathered) :
    batch ∈ l.gathered ∨ ∃ slot, .ok slot ∈ (l.submitAll keys).1 ∧ slot.batch = batch.id := by
  induction keys generalizing l with
  | nil => exact .inl member
  | cons key rest ih =>
    rcases ih (l := (l.submit key).2) member with there | ⟨slot, given, same⟩
    · rcases gathered_submit there with before | ⟨opened, given, same⟩
      · exact .inl before
      · exact .inr ⟨opened, List.mem_cons.mpr (.inl given.symm), same⟩
    · exact .inr ⟨slot, List.mem_cons_of_mem _ given, same⟩

end Loader

namespace Clocked

variable {κ ν : Type}

/-- A client in this phase has asked for its keys. -/
def Phase.Asked : Phase ν → Prop
  | .new _ => False
  | .asleep => False
  | .loading _ => True
  | .done _ => True

def AllAsked (t : Clocked κ ν) : Prop := ∀ client ∈ t.clients, client.phase.Asked

/-- No task is ready, and no client has keys left to ask for. -/
structure Rested (t : Clocked κ ν) : Prop where
  ready : t.ready = []
  asked : t.AllAsked

/-- The main task waits for its slots as one of the clients, and everybody has asked for his
keys. -/
structure Loading (t : Clocked κ ν) (number : Nat) (slots : List (Except LoadError Slot))
    (queue : List (Batch κ)) : Prop where
  queued : t.loader.calls ++ t.loader.gathered = queue
  asked : t.AllAsked
  own : ∀ batch, t.loader.openBatch = some batch → ∃ slot, .ok slot ∈ slots ∧ slot.batch = batch.id
  waits : (∃ client, t.clients[number]? = some client ∧ client.phase = .loading slots) ∨
    t.loader.openBatch = none

theorem submitAll_loader [DecidableEq κ] (t : Clocked κ ν) (keys : List κ) :
    (t.submitAll keys).1 = (t.loader.submitAll keys).1 ∧
      (t.submitAll keys).2.loader = (t.loader.submitAll keys).2 := by
  induction keys generalizing t with
  | nil => exact ⟨rfl, rfl⟩
  | cons key rest ih =>
    obtain ⟨slots, loader⟩ := ih (t.submit key).2
    exact ⟨congrArg ((t.submit key).1 :: ·) slots, loader⟩

theorem addClients_loader (t : Clocked κ ν) (groups : List (Nat × List κ)) :
    (groups.foldl (fun t (delay, keys) => t.addClient delay keys) t).loader = t.loader := by
  induction groups generalizing t with
  | nil => rfl
  | cons group rest ih => exact ih (t.addClient group.1 group.2)

theorem AllAsked.setPhase {t : Clocked κ ν} (all : t.AllAsked) (number : Nat) {phase : Phase ν}
    (asked : phase.Asked) : (t.setPhase number phase).AllAsked := by
  intro client member
  obtain ⟨place, found⟩ := List.getElem?_of_mem member
  simp only [Clocked.setPhase, List.getElem?_modify] at found
  obtain ⟨before, wasThere, rfl⟩ := Option.map_eq_some_iff.mp found
  by_cases same : number = place
  · rw [if_pos same]
    exact asked
  · rw [if_neg same]
    exact all before (List.mem_of_getElem? wasThere)

theorem AllAsked.concat {t joined : Clocked κ ν} (all : t.AllAsked) {keys : List κ}
    {slots : List (Except LoadError Slot)}
    (clients : joined.clients = t.clients ++ [⟨keys, .loading slots⟩]) : joined.AllAsked := by
  intro client member
  rw [clients] at member
  rcases List.mem_append.mp member with old | new
  · exact all client old
  · rw [List.mem_singleton.mp new]
    trivial

theorem AllAsked.look [Inhabited ν] {t : Clocked κ ν} (all : t.AllAsked) (number : Nat)
    (slots : List (Except LoadError Slot)) : (t.look number slots).AllAsked := by
  rw [Clocked.look]
  split
  · exact all.setPhase number trivial
  · exact all.setPhase number trivial

namespace Loading

variable {t : Clocked κ ν} {number : Nat} {slots : List (Except LoadError Slot)}
  {queue : List (Batch κ)}

/-- A batch may be closed and called while the clients do nothing. -/
theorem of_loader (loading : t.Loading number slots queue) {later : Clocked κ ν}
    (clients : later.clients = t.clients)
    (queued : later.loader.calls ++ later.loader.gathered = t.loader.calls ++ t.loader.gathered)
    (opens : ∀ batch, later.loader.openBatch = some batch → t.loader.openBatch = some batch) :
    later.Loading number slots queue where
  queued := queued.trans loading.queued
  asked := by
    rw [AllAsked, clients]
    exact loading.asked
  own := fun batch isOpen => loading.own batch (opens batch isOpen)
  waits := by
    rw [clients]
    refine loading.waits.imp_right ?_
    intro noOpen
    cases isOpen : later.loader.openBatch with
    | none => rfl
    | some batch =>
      rw [opens batch isOpen] at noOpen
      contradiction

theorem setPhase (loading : t.Loading number slots queue) {looker : Nat} {client : Client κ ν}
    (present : t.clients[looker]? = some client) {phase : Phase ν}
    (asked : phase.Asked) (waits : looker = number → phase = .loading slots ∨
      t.loader.openBatch = none) : (t.setPhase looker phase).Loading number slots queue where
  queued := loading.queued
  asked := loading.asked.setPhase looker asked
  own := loading.own
  waits := by
    by_cases same : looker = number
    · subst same
      refine (waits rfl).imp_left fun still => ?_
      exact ⟨_, List.getElem?_modify_eq .. |>.trans (congrArg _ present), still⟩
    · refine loading.waits.imp_left ?_
      rintro ⟨main, isThere, phase⟩
      exact ⟨main, (List.getElem?_modify_ne _ _ same).trans isThere, phase⟩

variable [DecidableEq κ] [Inhabited ν] {value : κ → Except LookupError ν} {closed : List (Batch κ)}
  {pending : List Job}

/-- Whoever looks at the slots of the main task sees nothing while a batch is open. -/
theorem look (loading : t.Loading number slots queue) (sound : t.Sound value closed pending)
    {looker : Nat} {client : Client κ ν} {found : List (Except LoadError Slot)}
    (present : t.clients[looker]? = some client) (phase : client.phase = .loading found) :
    (t.look looker found).Loading number slots queue := by
  have own : looker = number → found = slots ∨ t.loader.openBatch = none := by
    rintro rfl
    refine loading.waits.imp_left ?_
    rintro ⟨main, isThere, mainPhase⟩
    obtain rfl : client = main := Option.some.inj (present.symm.trans isThere)
    exact Phase.loading.inj (phase.symm.trans mainPhase)
  cases seen : t.loader.peekAll? found with
  | none =>
    simp only [Clocked.look, seen]
    exact loading.setPhase present trivial fun same => (own same).imp_left (congrArg _)
  | some results =>
    simp only [Clocked.look, seen]
    refine loading.setPhase present trivial fun same => .inr ?_
    rcases own same with rfl | noOpen
    · cases isOpen : t.loader.openBatch with
      | none => rfl
      | some batch =>
        obtain ⟨slot, member, sameBatch⟩ := loading.own batch isOpen
        obtain ⟨value, peeked⟩ := Loader.peek_of_peekAll seen member
        obtain ⟨_, consistent, _⟩ := sound.serves
        rw [Loader.peek_of_gathered consistent.staged sound.active
          (List.mem_append_right _ (Option.mem_toList.mpr isOpen)) sameBatch] at peeked
        contradiction
    · exact noOpen

theorem runExpire (loading : t.Loading number slots queue) (id : Nat) :
    (t.runExpire id).Loading number slots queue := by
  obtain ⟨calls, gathered⟩ := t.loader.expire_queue id
  refine loading.of_loader rfl ?_ fun batch isOpen => (open_expire isOpen).1
  exact congrArg₂ _ calls gathered

/-- The call that begins is the one of the batch at the head of the queue. -/
theorem runCall {id : Nat} (loading : t.Loading number slots queue)
    (sound : t.Sound value closed [.call id]) : (t.runCall id).Loading number slots queue := by
  obtain ⟨batch, rest, loader, waiting, rfl, answered, leads⟩ := sound.runCall_eq
  obtain ⟨_, consistent, _⟩ := sound.serves
  obtain ⟨settled, cache, calls, served⟩ := Loader.served_of_call waiting
    consistent.staged.waiting_nodup sound.active sound.calm (BatchAnswer.pointwise value batch.keys)
  obtain ⟨woken, published, _⟩ := publish_eq { t with loader } batch.id
  have called : (loader.publish batch.id).calls = t.loader.calls ++ [batch] := by
    simp [answered, Loader.begin, Loader.complete, Loader.publish, Loader.settle, waiting,
      sound.active, sound.calm]
  rw [← answered] at served
  rw [leads, published]
  refine loading.of_loader rfl ?_ ?_
  · dsimp only
    rw [called, served, Loader.gathered, Loader.gathered, waiting]
    simp
  · intro other isOpen
    dsimp only at isOpen
    rw [served] at isOpen
    exact isOpen

theorem runJob {job : Job} (loading : t.Loading number slots queue)
    (sound : t.Sound value closed [job]) : (t.runJob job).Loading number slots queue := by
  cases job with
  | wait id =>
    rw [Clocked.runJob]
    split
    · exact loading.runExpire id
    · exact loading.of_loader rfl rfl fun _ isOpen => isOpen
  | expire id => exact loading.runExpire id
  | call id => exact loading.runCall sound
  | client looker =>
    cases present : t.clients[looker]? with
    | none => simpa only [Clocked.runJob, present] using loading
    | some client =>
      have asked := loading.asked client (List.mem_of_getElem? present)
      simp only [Clocked.runJob, present]
      cases phase : client.phase with
      | new delay => simp [Phase.Asked, phase] at asked
      | asleep => simp [Phase.Asked, phase] at asked
      | loading found => exact loading.look sound present phase
      | done results => exact loading

end Loading

namespace Sound

variable [DecidableEq κ] [Inhabited ν] {t : Clocked κ ν} {value : κ → Except LookupError ν}
  {closed : List (Batch κ)}

/-! ## Invariants of a wait -/

section

variable {P : Clocked κ ν → Prop}
  (frame : ∀ t later : Clocked κ ν, later.loader = t.loader → later.clients = t.clients →
    P t → P later)
  (turn : ∀ t closed job, Sound t value closed [job] → P t → P (t.runJob job))

include frame turn

theorem drainTurns_keeps (sound : t.Sound value closed []) (begun : P t) (turns : Nat) :
    P (Clocked.drainTurns turns t) := by
  induction turns generalizing t closed with
  | zero => exact begun
  | succ turns ih =>
    cases ready : t.ready with
    | nil => simpa only [Clocked.drainTurns, ready] using begun
    | cons job rest =>
      have popped := sound.pop ready
      obtain ⟨later, next⟩ := popped.runJob
      simp only [Clocked.drainTurns, ready]
      exact ih next (turn _ _ job popped (frame t _ rfl rfl begun))

/-- What every turn keeps is kept by a wait, and no task is ready when the wait ends. -/
theorem waitUntil_keeps (sound : t.Sound value closed []) (begun : P t)
    (goal : Clocked κ ν → Bool) : P (t.waitUntil goal) ∧ (t.waitUntil goal).ready = [] := by
  rw [waitUntil]
  have enough := t.naps_lt_roundBound
  generalize t.roundBound = rounds at enough
  induction rounds generalizing t closed with
  | zero => omega
  | succ rounds ih =>
    obtain ⟨⟨later, drained⟩, ready, naps, _⟩ := sound.drain
    have kept := sound.drainTurns_keeps frame turn begun t.turnBound
    simp only [Clocked.waitRounds]
    split
    · exact ⟨kept, ready⟩
    · cases timers : t.drain.timers with
      | nil => exact ⟨kept, ready⟩
      | cons first rest =>
        have fewer := drained.advance_naps ready timers
        exact ih (drained.advance first.1) (frame t.drain _ rfl rfl kept) (by omega)

end

/-! ## Loads of the main task -/

theorem runJob_asked {job : Job} (sound : t.Sound value closed [job]) (all : t.AllAsked) :
    (t.runJob job).AllAsked := by
  cases job with
  | wait id =>
    rw [Clocked.runJob]
    split <;> exact all
  | expire id => exact all
  | call id =>
    rw [AllAsked, Clocked.runJob, sound.runCall_spends.2.2]
    exact all
  | client looker =>
    cases present : t.clients[looker]? with
    | none => simpa only [Clocked.runJob, present] using all
    | some client =>
      have asked := all client (List.mem_of_getElem? present)
      simp only [Clocked.runJob, present]
      cases phase : client.phase with
      | new delay => simp [Phase.Asked, phase] at asked
      | asleep => simp [Phase.Asked, phase] at asked
      | loading found => exact all.look looker found
      | done results => exact all

/-- Every closed batch has been called when no task is ready. -/
theorem waiting_of_rest (sound : t.Sound value closed []) (ready : t.ready = []) :
    t.loader.waiting = [] := by
  have calls := sound.calls
  rw [ready] at calls
  exact List.map_eq_nil_iff.mp calls.symm

/-- A load of the main task as one wait: its client has looked at its slots once when it begins. -/
theorem load_started (sound : t.Sound value closed []) (keys : List κ) :
    ∃ (asked : Clocked κ ν) (later : List (Batch κ)), asked = { (t.submitAll keys).2 with
        clients := t.clients ++ [⟨keys, .loading (t.submitAll keys).1⟩] } ∧
      asked.Sound value later [.client t.clients.length] ∧
      (asked.look t.clients.length (t.submitAll keys).1).Sound value later [] ∧
      (t.load keys).2 = (asked.look t.clients.length (t.submitAll keys).1).waitUntil
        fun t' => (t'.clients[t.clients.length]?).any (·.results?.isSome) := by
  obtain ⟨submitted, begun, handed, _⟩ := sound.submitAll keys
  have clients := submitAll_clients t keys
  rw [← clients]
  have attends : Client.Attended ⟨keys, .loading (t.submitAll keys).1⟩ (t.submitAll keys).2.loader
    submitted value True := ⟨handed, .inl trivial⟩
  have joined := begun.join attends
  refine ⟨_, submitted, rfl, joined, joined.look ?_, ?_⟩
  · intro client present
    obtain rfl : (⟨keys, .loading (t.submitAll keys).1⟩ : Client κ ν) = client := by
      simpa using present
    exact handed
  · rw [clients]
    simp only [Clocked.load, clients]

/-- A load ends with all tasks at rest. -/
theorem load_rested (sound : t.Sound value closed []) (all : t.AllAsked) (keys : List κ) :
    (t.load keys).2.Rested := by
  obtain ⟨asked, later, isAsked, joined, looked, leads⟩ := sound.load_started keys
  have begun : asked.AllAsked := all.concat (by rw [isAsked])
  rw [leads]
  obtain ⟨kept, ready⟩ := looked.waitUntil_keeps (P := AllAsked)
    (fun t later _ clients all => by rwa [AllAsked, clients])
    (fun _ _ _ sound all => sound.runJob_asked all) (begun.look _ _) _
  exact ⟨ready, kept⟩

/-- So does a wait for clients that start after delays, and they are done then. -/
theorem staged_rested (sound : t.Sound value closed []) (groups : List (Nat × List κ)) :
    (t.staged groups).2.Rested := by
  obtain ⟨joined, _⟩ := sound.addClients groups
  simp only [Clocked.staged]
  generalize groups.foldl (fun t (delay, keys) => t.addClient delay keys) t = started at *
  obtain ⟨_, reached, _⟩ := joined.waitRounds
    (fun t => t.clients.all (·.results?.isSome)) (started.clients.map (·.keys)) (by
      intro rest closed calm _ ready timers
      rw [List.all_eq_true]
      intro client member
      obtain ⟨number, present⟩ := List.getElem?_of_mem member
      simp [calm.all_done ready timers present]) rfl started.roundBound started.naps_lt_roundBound
  obtain ⟨_, ready⟩ := joined.waitUntil_keeps (P := fun _ => True) (fun _ _ _ _ _ => trivial)
    (fun _ _ _ _ _ => trivial) trivial fun t => t.clients.all (·.results?.isSome)
  refine ⟨ready, ?_⟩
  intro client member
  have done := List.all_eq_true.mp reached client member
  cases phase : client.phase <;> simp [Client.results?, phase, Phase.Asked] at done ⊢

/-- No turn changes how many keys a batch may have. -/
theorem runJob_capacity {job : Job} (sound : t.Sound value closed [job]) :
    (t.runJob job).loader.capacity = t.loader.capacity := by
  have expires : ∀ id, (t.runExpire id).loader.capacity = t.loader.capacity :=
    fun id => Loader.capacity_turn (Loader.turn_of_step t.loader (.expire id))
  have begins : ∀ number keys, (t.beginLoad number keys).loader.capacity = t.loader.capacity := by
    intro number keys
    obtain ⟨phase, leads, _⟩ := (t.submitAll keys).2.look_eq number (t.submitAll keys).1
    rw [Clocked.beginLoad]
    dsimp only
    rw [leads, Clocked.setPhase, (t.submitAll_loader keys).2, Loader.submitAll_run,
      Loader.capacity_run]
  cases job with
  | wait id =>
    rw [Clocked.runJob]
    split
    · exact expires id
    · rfl
  | expire id => exact expires id
  | call id =>
    obtain ⟨batch, rest, loader, waiting, rfl, answered, leads⟩ := sound.runCall_eq
    obtain ⟨_, published, _⟩ := publish_eq { t with loader } batch.id
    rw [Clocked.runJob, leads, published, answered]
    exact Loader.capacity_run t.loader [.begin batch.id, .complete batch.id _, .publish batch.id]
  | client looker =>
    cases present : t.clients[looker]? with
    | none => simp only [Clocked.runJob, present]
    | some client =>
      simp only [Clocked.runJob, present]
      cases client.phase with
      | new delay =>
        cases delay with
        | zero => exact begins looker client.keys
        | succ delay => rfl
      | asleep => exact begins looker client.keys
      | loading found =>
        obtain ⟨phase, leads, _⟩ := t.look_eq looker found
        dsimp only
        rw [leads]
        rfl
      | done results => rfl

theorem load_capacity (sound : t.Sound value closed []) (keys : List κ) :
    (t.load keys).2.loader.capacity = t.loader.capacity := by
  obtain ⟨asked, later, isAsked, joined, looked, leads⟩ := sound.load_started keys
  obtain ⟨phase, isPhase, _⟩ := asked.look_eq t.clients.length (t.submitAll keys).1
  have begun : (asked.look t.clients.length (t.submitAll keys).1).loader.capacity =
      t.loader.capacity := by
    rw [isPhase, Clocked.setPhase, isAsked]
    dsimp only
    rw [(t.submitAll_loader keys).2, Loader.submitAll_run, Loader.capacity_run]
  rw [leads]
  exact (looked.waitUntil_keeps (P := (·.loader.capacity = t.loader.capacity))
    (fun _ _ same _ kept => (congrArg _ same).trans kept)
    (fun _ _ _ sound kept => sound.runJob_capacity.trans kept) begun _).1

theorem staged_capacity (sound : t.Sound value closed []) (groups : List (Nat × List κ)) :
    (t.staged groups).2.loader.capacity = t.loader.capacity := by
  obtain ⟨joined, _⟩ := sound.addClients groups
  exact (joined.waitUntil_keeps (P := (·.loader.capacity = t.loader.capacity))
    (fun _ _ same _ kept => (congrArg _ same).trans kept)
    (fun _ _ _ sound kept => sound.runJob_capacity.trans kept)
    (congrArg _ (t.addClients_loader groups)) _).1

/-- When the main task has asked for its keys, all that is left to call are the batches that have
gathered them. -/
theorem loading_of_asked (sound : t.Sound value closed []) (rested : t.Rested)
    (noOpen : t.loader.openBatch = none) {keys : List κ} {batches : List (Batch κ)}
    (gathered : (t.loader.submitAll keys).2.gathered = t.loader.waiting ++ batches)
    {asked : Clocked κ ν} (isAsked : asked = { (t.submitAll keys).2 with
      clients := t.clients ++ [⟨keys, .loading (t.submitAll keys).1⟩] }) :
    asked.Loading t.clients.length (t.submitAll keys).1 (t.loader.calls ++ batches) := by
  obtain ⟨slots, loader⟩ := t.submitAll_loader keys
  have noWaiting : t.loader.waiting = [] := sound.waiting_of_rest rested.ready
  have all : asked.AllAsked := rested.asked.concat (by rw [isAsked])
  subst isAsked
  refine ⟨?_, all, ?_, .inl ⟨_, List.getElem?_concat_length, rfl⟩⟩
  · dsimp only
    rw [loader, Loader.calls_submitAll, gathered, noWaiting, List.nil_append]
  · intro batch isOpen
    dsimp only at isOpen
    rw [loader] at isOpen
    have member := List.mem_append_right (t.loader.submitAll keys).2.waiting
      (Option.mem_toList.mpr isOpen)
    rcases Loader.gathered_submitAll member with before | given
    · simp [Loader.gathered, noWaiting, noOpen] at before
    · rw [slots]
      exact given

/-- All batches that a load opens are called before it ends, behind the calls before it. -/
theorem calls_of_load (sound : t.Sound value closed []) (rested : t.Rested)
    (noOpen : t.loader.openBatch = none) {keys : List κ}
    (unknown : ∀ key ∈ keys, t.loader.cache.lookup key = none) :
    ∃ batches, (t.load keys).2.loader.calls = t.loader.calls ++ batches ∧
      Loader.Coalesced t.loader.capacity t.loader.nextId keys batches := by
  obtain ⟨_, consistent, _⟩ := sound.serves
  obtain ⟨batches, gathered, coalesced⟩ := Loader.coalesced_of_submitAll sound.active
    consistent.staged.positive noOpen unknown
  refine ⟨batches, ?_, coalesced⟩
  obtain ⟨asked, later, isAsked, joined, looked, leads⟩ := sound.load_started keys
  have begun := sound.loading_of_asked rested noOpen gathered isAsked
  have main : asked.clients[t.clients.length]? = some ⟨keys, .loading (t.submitAll keys).1⟩ := by
    simp [isAsked]
  obtain ⟨phase, isPhase, _⟩ := asked.look_eq t.clients.length (t.submitAll keys).1
  have asks : ((asked.look t.clients.length (t.submitAll keys).1).clients.map
      (·.keys))[t.clients.length]? = some keys := by
    rw [isPhase, setPhase_keys, List.getElem?_map, main, Option.map_some]
  obtain ⟨⟨last, final⟩, client, results, present, _, done⟩ := looked.waitUntil_done asks
  obtain ⟨ended, ready⟩ := looked.waitUntil_keeps
    (P := (·.Loading t.clients.length (t.submitAll keys).1 (t.loader.calls ++ batches)))
    (fun _ _ same clients loading => loading.of_loader clients (by rw [same]) (by simp [same]))
    (fun _ _ _ sound loading => loading.runJob sound) (begun.look joined main rfl)
    fun t' => (t'.clients[t.clients.length]?).any (·.results?.isSome)
  rw [← leads] at final present ended ready
  have noneLeft : (t.load keys).2.loader.openBatch = none := by
    refine ended.waits.resolve_left ?_
    rintro ⟨other, isThere, phase⟩
    obtain rfl : client = other := Option.some.inj (present.symm.trans isThere)
    simp [Client.results?, phase] at done
  have queued := ended.queued
  rwa [Loader.gathered, final.waiting_of_rest ready, noneLeft, Option.toList_none, List.append_nil,
    List.append_nil] at queued

end Sound

end Clocked

end Transit
