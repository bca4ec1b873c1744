import Transit.Loader.Clocked
import Transit.Proofs.Loader.Delivery
set_option autoImplicit false

/-!
# Tasks of a runtime

`Sound` says what holds of a runtime between the turns of its tasks while its fetcher answers key by
key and nothing is cancelled: each closed batch has its call among the tasks that are ready, an open
batch has a timer, and a client that waits in vain for nothing is woken or has results to wait for.
Each turn keeps it (`Sound.runJob`), and so does the clock (`Sound.advance`).

While a task takes its turn it is no longer among those that are ready; `pending` holds it then.
-/

namespace Transit

namespace Clocked

variable {κ ν : Type}

/-- The batch whose call a task makes. -/
def Job.callee : Job → Option Nat
  | .call batch => some batch
  | _ => none

/-- A task that has its turn now, is ready, or sleeps. -/
def Due (t : Clocked κ ν) (pending : List Job) (job : Job) : Prop :=
  job ∈ pending ++ t.ready ∨ ∃ moment, (moment, job) ∈ t.timers

section
variable {t : Clocked κ ν} {pending : List Job}

/-- More tasks may be ready, and more may sleep. -/
theorem Due.mono {later : Clocked κ ν} {job : Job} (due : t.Due pending job)
    (ready : t.ready ⊆ later.ready) (timers : t.timers ⊆ later.timers) :
    later.Due pending job := by
  rcases due with awake | ⟨moment, asleep⟩
  · rcases List.mem_append.mp awake with current | waiting
    · exact .inl (List.mem_append_left _ current)
    · exact .inl (List.mem_append_right _ (ready waiting))
  · exact .inr ⟨moment, timers asleep⟩

/-- A task that has had its turn leaves the others due. -/
theorem Due.of_ne {job other : Job} (due : t.Due [other] job) (differs : job ≠ other) :
    t.Due [] job := by
  rcases due with awake | asleep
  · rcases List.mem_append.mp awake with current | waiting
    · exact absurd (List.mem_singleton.mp current) differs
    · exact .inl waiting
  · exact .inr asleep

end

theorem callee_calls (batches : List (Batch κ)) :
    (batches.map fun batch => Job.call batch.id).filterMap Job.callee = batches.map (·.id) := by
  rw [List.filterMap_map]
  exact congrFun List.filterMap_eq_map' batches

theorem submitAll_clients [DecidableEq κ] (t : Clocked κ ν) (keys : List κ) :
    (t.submitAll keys).2.clients = t.clients := by
  induction keys generalizing t with
  | nil => rfl
  | cons key rest ih => exact ih (t.submit key).2

/-- Waking clients adds their tasks to those that are ready, each at most once. -/
theorem wake_all (t : Clocked κ ν) (numbers : List Nat) :
    ∃ woken : List Job, numbers.foldl (fun t n => t.wake (.client n)) t =
        { t with ready := t.ready ++ woken } ∧
      woken.length ≤ numbers.length ∧ (∀ job ∈ woken, ∃ n, job = .client n) ∧
      ∀ n ∈ numbers, Job.client n ∈ t.ready ++ woken := by
  induction numbers generalizing t with
  | nil => exact ⟨[], by simp⟩
  | cons number rest ih =>
    by_cases awake : t.ready.contains (.client number)
    · obtain ⟨woken, leads, bound, clients, all⟩ := ih t
      refine ⟨woken, by simpa only [List.foldl_cons, wake, awake, if_true] using leads, ?_⟩
      refine ⟨Nat.le_succ_of_le bound, clients, ?_⟩
      intro n member
      rcases List.mem_cons.mp member with rfl | later
      · exact List.mem_append_left _ (List.contains_iff_mem.mp awake)
      · exact all n later
    · obtain ⟨woken, leads, bound, clients, all⟩ :=
        ih { t with ready := t.ready ++ [.client number] }
      refine ⟨.client number :: woken, ?_, Nat.succ_le_succ bound, ?_, ?_⟩
      · have asleep : t.wake (.client number) = { t with ready := t.ready ++ [.client number] } :=
          if_neg awake
        rw [List.foldl_cons, asleep, leads, List.append_assoc]
        rfl
      · intro job member
        rcases List.mem_cons.mp member with rfl | later
        · exact ⟨number, rfl⟩
        · exact clients job later
      · intro n member
        rcases List.mem_cons.mp member with rfl | later
        · simp
        · simpa using all n later

theorem mem_waitingFor {t : Clocked κ ν} {number : Nat} {client : Client κ ν}
    {slots : List (Except LoadError Slot)} {slot : Slot}
    (present : t.clients[number]? = some client) (phase : client.phase = .loading slots)
    (member : .ok slot ∈ slots) : number ∈ t.waitingFor slot.batch := by
  refine List.mem_map.mpr ⟨(client, number), List.mem_filter.mpr ⟨?_, ?_⟩, rfl⟩
  · exact List.mem_zipIdx_iff_getElem?.mpr present
  · simp only [phase]
    exact List.any_eq_true.mpr ⟨.ok slot, member, by simp⟩

theorem waitingFor_length_le (t : Clocked κ ν) (batch : Nat) :
    (t.waitingFor batch).length ≤ t.clients.length := by
  rw [waitingFor, List.length_map]
  exact Nat.le_trans (List.length_filter_le _ _) (Nat.le_of_eq List.length_zipIdx)

theorem publish_eq [DecidableEq κ] (t : Clocked κ ν) (id : Nat) :
    ∃ woken : List Job, t.publish id =
        { t with loader := t.loader.publish id, ready := t.ready ++ woken } ∧
      woken.length ≤ t.clients.length ∧ (∀ job ∈ woken, ∃ n, job = .client n) ∧
      ∀ n ∈ t.waitingFor id, Job.client n ∈ t.ready ++ woken := by
  obtain ⟨woken, leads, bound, clients, all⟩ :=
    wake_all { t with loader := t.loader.publish id } (t.waitingFor id)
  exact ⟨woken, leads, Nat.le_trans bound (t.waitingFor_length_le id), clients, all⟩

theorem callee_clients {woken : List Job} (clients : ∀ job ∈ woken, ∃ n, job = .client n) :
    woken.filterMap Job.callee = [] := by
  rw [List.filterMap_eq_nil_iff]
  intro job member
  obtain ⟨n, rfl⟩ := clients job member
  rfl

variable [Inhabited ν]

/-- A client has its results, or its task will go on. -/
def Client.Attended (c : Client κ ν) (l : Loader κ ν) (closed : List (Batch κ))
    (value : κ → Except LookupError ν) (due : Prop) : Prop :=
  match c.phase with
  | .new _ => due
  | .asleep => due
  | .loading slots => l.Handed closed slots c.keys ∧ (due ∨ l.peekAll? slots = none)
  | .done results => results = c.keys.map fun key => LoadError.ofEntry (value key)

theorem Client.Attended.mono {c : Client κ ν} {l next : Loader κ ν} {closed later : List (Batch κ)}
    {value : κ → Except LookupError ν} {due dueNext : Prop}
    (attended : c.Attended l closed value due) (stays : due → dueNext)
    (kept : ∀ slot key, l.Carries closed slot key → next.Carries later slot key)
    (waits : ∀ slots, c.phase = .loading slots → l.peekAll? slots = none →
      dueNext ∨ next.peekAll? slots = none) :
    c.Attended next later value dueNext := by
  unfold Client.Attended at attended ⊢
  cases phase : c.phase with
  | new delay =>
    rw [phase] at attended
    exact stays attended
  | asleep =>
    rw [phase] at attended
    exact stays attended
  | loading slots =>
    rw [phase] at attended
    refine ⟨attended.1.mono kept, ?_⟩
    rcases attended.2 with due | unseen
    · exact .inl (stays due)
    · exact waits slots phase unseen
  | done results =>
    rw [phase] at attended
    exact attended

structure Sound [DecidableEq κ] (t : Clocked κ ν) (value : κ → Except LookupError ν)
    (closed : List (Batch κ)) (pending : List Job) : Prop where
  serves : t.loader.Serves value closed
  active : t.loader.cancelled = false
  pointwise : ∀ call keys, t.fetch call keys = some (BatchAnswer.pointwise value keys)
  calm : t.loader.running = [] ∧ t.loader.settling = []
  calls : (pending ++ t.ready).filterMap Job.callee = t.loader.waiting.map (·.id)
  timed : ∀ batch, t.loader.openBatch = some batch →
    t.Due pending (.wait batch.id) ∨ t.Due pending (.expire batch.id)
  asleep : ∀ nap ∈ t.timers, (∃ batch, nap.2 = .expire batch) ∨ ∃ number, nap.2 = .client number
  attended : ∀ number (client : Client κ ν), t.clients[number]? = some client →
    client.Attended t.loader closed value (t.Due pending (.client number))

variable [DecidableEq κ] {t : Clocked κ ν} {value : κ → Except LookupError ν}
  {closed : List (Batch κ)} {pending : List Job}

theorem mem_insertTimer (deadline : Nat) (job : Job) (timers : List (Nat × Job))
    (nap : Nat × Job) :
    nap ∈ insertTimer deadline job timers ↔ nap = (deadline, job) ∨ nap ∈ timers := by
  induction timers with
  | nil => simp [insertTimer]
  | cons first rest ih =>
    obtain ⟨d, j⟩ := first
    rw [insertTimer]
    split
    · simp
    · rw [List.mem_cons, ih, List.mem_cons]
      tauto

theorem subset_insertTimer (deadline : Nat) (job : Job) (timers : List (Nat × Job)) :
    timers ⊆ insertTimer deadline job timers := by
  intro nap member
  exact (mem_insertTimer deadline job timers nap).mpr (.inr member)

/-! ## Submitting keys -/

/-- The tasks that a new key calls for. -/
def started (t : Clocked κ ν) (key : κ) : List Job :=
  (if t.loader.nextId < (t.loader.step (.submit key)).nextId then [Job.wait t.loader.nextId]
    else []) ++ (t.loader.closedBy (.submit key)).map fun batch => Job.call batch.id

theorem submit_eq (t : Clocked κ ν) (key : κ) :
    t.submit key = ((t.loader.submit key).1,
      { t with loader := t.loader.step (.submit key), ready := t.ready ++ t.started key }) := by
  rw [started, ← List.append_assoc]
  rfl

/-- What stays when a loader takes a key or closes a batch. -/
structure Grows (l : Loader κ ν) (shut : List (Batch κ)) (next : Loader κ ν) : Prop where
  waiting : next.waiting = l.waiting ++ shut
  running : next.running = l.running
  settling : next.settling = l.settling
  settled : next.settled = l.settled
  cancelled : next.cancelled = l.cancelled

theorem grows_submit {l next : Loader κ ν} {key : κ} {shut : List (Batch κ)}
    {given : List (Batch κ × BatchAnswer ν)} (turn : Loader.Turn l (.submit key) shut given next) :
    Grows l shut next := by
  cases turn with
  | rest e => exact ⟨by simp, rfl, rfl, rfl, rfl⟩
  | enter key active unknown room => exact ⟨by simp [Loader.entered], rfl, rfl, rfl, rfl⟩
  | fill key active unknown full => exact ⟨rfl, rfl, rfl, rfl, rfl⟩

theorem grows_expire {l next : Loader κ ν} {id : Nat} {shut : List (Batch κ)}
    {given : List (Batch κ × BatchAnswer ν)} (turn : Loader.Turn l (.expire id) shut given next) :
    Grows l shut next := by
  cases turn with
  | rest e => exact ⟨by simp, rfl, rfl, rfl, rfl⟩
  | expire batch isOpen => exact ⟨rfl, rfl, rfl, rfl, rfl⟩

/-- An open batch is the one that was open before, or a new one. -/
theorem open_submit {l next : Loader κ ν} {key : κ} {shut : List (Batch κ)}
    {given : List (Batch κ × BatchAnswer ν)} (turn : Loader.Turn l (.submit key) shut given next)
    {batch : Batch κ} (isOpen : next.openBatch = some batch) :
    (∃ before, l.openBatch = some before ∧ before.id = batch.id) ∨
      (batch.id = l.nextId ∧ l.nextId < next.nextId) := by
  cases turn with
  | rest e => exact .inl ⟨batch, isOpen, rfl⟩
  | enter key active unknown room =>
    obtain rfl : l.grown key = batch := by simpa [Loader.entered] using isOpen
    cases before : l.openBatch with
    | none => exact .inr (by simp [Loader.grown, Loader.currentBatch, Loader.entered, before])
    | some current =>
      exact .inl ⟨current, rfl, by simp [Loader.grown, Loader.currentBatch, before]⟩
  | fill key active unknown full => simp [Loader.close] at isOpen

/-- A batch that stays open is not the one whose wait is over. -/
theorem open_expire {l : Loader κ ν} {id : Nat} {batch : Batch κ}
    (isOpen : (l.step (.expire id)).openBatch = some batch) :
    l.openBatch = some batch ∧ batch.id ≠ id := by
  cases before : l.openBatch with
  | none => simp [Loader.step, Loader.expire, before] at isOpen
  | some current =>
    by_cases same : current.id = id
    · simp [Loader.step, Loader.expire, before, same] at isOpen
    · simp only [Loader.step, Loader.expire, before, beq_eq_false_iff_ne.mpr same] at isOpen
      obtain rfl : current = batch := by simpa [before] using isOpen
      exact ⟨rfl, same⟩

namespace Sound

/-- A client is attended as well by a loader that has grown. -/
theorem attended_of_grows (sound : t.Sound value closed pending) {e : Loader.Event κ ν}
    {later : Clocked κ ν} {pendingLater : List Job}
    (loader : later.loader = t.loader.step e)
    (grows : Grows t.loader (t.loader.closedBy e) later.loader)
    (clients : later.clients = t.clients)
    (stays : ∀ number, t.Due pending (.client number) → later.Due pendingLater (.client number))
    (number : Nat) (client : Client κ ν) (present : later.clients[number]? = some client) :
    client.Attended later.loader (closed ++ t.loader.closedBy e) value
      (later.Due pendingLater (.client number)) := by
  rw [clients] at present
  refine (sound.attended number client present).mono (stays number) ?_ ?_
  · intro slot key carries
    rw [loader]
    exact carries.turn (Loader.turn_of_step t.loader e)
  · intro slots _ unseen
    have same : later.loader.peekAll? slots = t.loader.peekAll? slots :=
      Loader.peekAll_congr fun slot _ => Loader.peek_congr grows.settled grows.cancelled slot
    exact .inr (same.trans unseen)

theorem submit (sound : t.Sound value closed pending) (key : κ) :
    (t.submit key).2.Sound value (closed ++ t.loader.closedBy (.submit key)) pending := by
  have turn := Loader.turn_of_step t.loader (.submit key)
  have grows := grows_submit turn
  rw [submit_eq]
  have stays : ∀ job, t.Due pending job → Due { t with
      loader := t.loader.step (.submit key), ready := t.ready ++ t.started key } pending job :=
    fun job due => due.mono (List.subset_append_left _ _) (List.Subset.refl _)
  exact {
    serves := sound.serves.step (.submit key) (by simp [Loader.answeredBy])
    active := grows.cancelled.trans sound.active
    pointwise := sound.pointwise
    calm := by
      dsimp only
      rw [grows.running, grows.settling]
      exact sound.calm
    calls := by
      have opened : (if t.loader.nextId < (t.loader.step (.submit key)).nextId
          then [Job.wait t.loader.nextId] else []).filterMap Job.callee = [] := by
        split <;> rfl
      dsimp only
      rw [← List.append_assoc, List.filterMap_append, sound.calls, started, List.filterMap_append,
        opened, callee_calls, grows.waiting, List.map_append, List.nil_append]
    timed := by
      intro batch isOpen
      rcases open_submit turn isOpen with ⟨before, wasOpen, same⟩ | ⟨new, counted⟩
      · rw [← same]
        exact (sound.timed before wasOpen).imp (stays _) (stays _)
      · refine .inl (.inl (List.mem_append_right _ (List.mem_append_right _ ?_)))
        simp [started, new, counted]
    asleep := sound.asleep
    attended := sound.attended_of_grows rfl grows rfl fun number => stays (.client number) }

/-- Every key gets a slot that carries it. -/
theorem handed (sound : t.Sound value closed pending) (key : κ) :
    ∃ slot, (t.submit key).1 = .ok slot ∧
      (t.submit key).2.loader.Carries (closed ++ t.loader.closedBy (.submit key)) slot key := by
  rw [submit_eq]
  cases given : (t.loader.submit key).1 with
  | error e =>
    have stopped := (Loader.submit_error given).2
    rw [sound.active] at stopped
    contradiction
  | ok slot =>
    obtain ⟨_, consistent, _⟩ := sound.serves
    exact ⟨slot, rfl, consistent.carries_of_submit given⟩

theorem submitAll (sound : t.Sound value closed pending) (keys : List κ) :
    ∃ later, (t.submitAll keys).2.Sound value later pending ∧
      (t.submitAll keys).2.loader.Handed later (t.submitAll keys).1 keys ∧
      ∀ slot key, t.loader.Carries closed slot key →
        (t.submitAll keys).2.loader.Carries later slot key := by
  induction keys generalizing t closed with
  | nil => exact ⟨closed, sound, .nil, fun _ _ carries => carries⟩
  | cons key rest ih =>
    obtain ⟨slot, given, carries⟩ := sound.handed key
    obtain ⟨later, soundLater, handed, kept⟩ := ih (sound.submit key)
    refine ⟨later, soundLater, .cons ⟨slot, given, kept slot key carries⟩ handed, ?_⟩
    intro other key' carried
    have next := carried.turn (Loader.turn_of_step t.loader (.submit key))
    exact kept other key' next

/-! ## The turn of a client -/

/-- After its turn a client need not be due if it is attended otherwise. -/
theorem release {number : Nat} (sound : t.Sound value closed [.client number])
    (clients : List (Client κ ν)) (others : ∀ other, other ≠ number →
      clients[other]? = t.clients[other]?)
    (attends : ∀ client : Client κ ν, clients[number]? = some client →
      client.Attended t.loader closed value (t.Due [] (.client number))) :
    Sound { t with clients } value closed [] := by
  exact {
    serves := sound.serves
    active := sound.active
    pointwise := sound.pointwise
    calm := sound.calm
    calls := sound.calls
    timed := by
      intro batch isOpen
      exact (sound.timed batch isOpen).imp (·.of_ne (by simp)) (·.of_ne (by simp))
    asleep := sound.asleep
    attended := by
      intro other client present
      by_cases same : other = number
      · subst same
        exact attends client present
      · have older := sound.attended other client (others other same ▸ present)
        refine older.mono (fun due => due.of_ne ?_) (fun _ _ carries => carries)
          (fun _ _ unseen => .inr unseen)
        simpa using same }

theorem setPhase {number : Nat} (sound : t.Sound value closed [.client number]) (phase : Phase ν)
    (attends : ∀ client : Client κ ν, t.clients[number]? = some client →
      Client.Attended { client with phase } t.loader closed value (t.Due [] (.client number))) :
    (t.setPhase number phase).Sound value closed [] := by
  refine sound.release _ ?_ ?_
  · intro other differs
    exact List.getElem?_modify_ne _ _ (Ne.symm differs)
  · intro client present
    rw [List.getElem?_modify_eq] at present
    obtain ⟨before, wasPresent, rfl⟩ := Option.map_eq_some_iff.mp present
    exact attends before wasPresent

theorem look {number : Nat} (sound : t.Sound value closed [.client number])
    {slots : List (Except LoadError Slot)}
    (handed : ∀ client : Client κ ν, t.clients[number]? = some client →
      t.loader.Handed closed slots client.keys) :
    (t.look number slots).Sound value closed [] := by
  cases seen : t.loader.peekAll? slots with
  | none =>
    simp only [Clocked.look, seen]
    exact sound.setPhase _ fun client present => ⟨handed client present, .inr seen⟩
  | some results =>
    simp only [Clocked.look, seen]
    exact sound.setPhase _ fun client present =>
      sound.serves.seen_all sound.active (handed client present) seen

/-- A client or the timer of a batch goes to sleep. -/
theorem sleep (sound : t.Sound value closed pending) (ms : Nat) {job : Job}
    (naps : (∃ batch, job = .expire batch) ∨ ∃ number, job = .client number) :
    (t.sleep ms job).Sound value closed pending := by
  have stays : ∀ other, t.Due pending other → (t.sleep ms job).Due pending other :=
    fun other due => due.mono (List.Subset.refl _) (subset_insertTimer _ _ _)
  exact {
    serves := sound.serves
    active := sound.active
    pointwise := sound.pointwise
    calm := sound.calm
    calls := sound.calls
    timed := fun batch isOpen => (sound.timed batch isOpen).imp (stays _) (stays _)
    asleep := by
      intro nap member
      rcases (mem_insertTimer _ _ _ nap).mp member with rfl | older
      · exact naps
      · exact sound.asleep nap older
    attended := fun number client present => (sound.attended number client present).mono
      (stays _) (fun _ _ carries => carries) (fun _ _ unseen => .inr unseen) }

theorem beginLoad {number : Nat} (sound : t.Sound value closed [.client number]) {keys : List κ}
    (own : ∀ client : Client κ ν, t.clients[number]? = some client → client.keys = keys) :
    ∃ later, (t.beginLoad number keys).Sound value later [] := by
  obtain ⟨later, soundLater, handed, _⟩ := sound.submitAll keys
  refine ⟨later, soundLater.look ?_⟩
  intro client present
  rw [submitAll_clients] at present
  rw [own client present]
  exact handed

theorem runClient {number : Nat} (sound : t.Sound value closed [.client number]) :
    ∃ later, (t.runJob (.client number)).Sound value later [] := by
  cases present : t.clients[number]? with
  | none =>
    simp only [runJob, present]
    exact ⟨closed, sound.release t.clients (fun _ _ => rfl) (by simp [present])⟩
  | some client =>
    have own : ∀ other : Client κ ν, t.clients[number]? = some other → other = client := by
      intro other isOther
      exact Option.some.inj (isOther.symm.trans present)
    have attended := sound.attended number client present
    rw [Client.Attended] at attended
    simp only [runJob, present]
    cases phase : client.phase with
    | new delay =>
      cases delay with
      | zero => exact sound.beginLoad fun other isOther => by rw [own other isOther]
      | succ delay =>
        refine ⟨closed, (sound.sleep (delay + 1) (.inr ⟨number, rfl⟩)).setPhase .asleep ?_⟩
        intro other _
        exact .inr ⟨_, (mem_insertTimer _ _ _ _).mpr (.inl rfl)⟩
    | asleep => exact sound.beginLoad fun other isOther => by rw [own other isOther]
    | loading slots =>
      rw [phase] at attended
      exact ⟨closed, sound.look fun other isOther => own other isOther ▸ attended.1⟩
    | done results =>
      refine ⟨closed, sound.release t.clients (fun _ _ => rfl) ?_⟩
      intro other isOther
      rw [own other isOther, Client.Attended, phase]
      rw [phase] at attended
      exact attended

/-! ## The turns of a batch -/

/-- The wait of a batch is over; only the timer that ends it may leave. -/
theorem runExpire {id : Nat} {job : Job} (sound : t.Sound value closed [job])
    (timer : job = .wait id ∨ job = .expire id) :
    (t.runExpire id).Sound value (closed ++ t.loader.closedBy (.expire id)) [] := by
  have turn := Loader.turn_of_step t.loader (.expire id)
  have grows := grows_expire turn
  have stays : ∀ other, other ≠ job → t.Due [job] other → (t.runExpire id).Due [] other :=
    fun other differs due =>
      (due.of_ne differs).mono (List.subset_append_left _ _) (List.Subset.refl _)
  have notCall : [job].filterMap Job.callee = [] := by rcases timer with rfl | rfl <;> rfl
  exact {
    serves := sound.serves.step (.expire id) (by simp [Loader.answeredBy])
    active := grows.cancelled.trans sound.active
    pointwise := sound.pointwise
    calm := by
      have calm := sound.calm
      rw [← grows.running, ← grows.settling] at calm
      exact calm
    calls := by
      have older := sound.calls
      rw [List.filterMap_append, notCall, List.nil_append] at older
      have ready : (t.runExpire id).ready = t.ready ++
          (t.loader.closedBy (.expire id)).map fun batch => Job.call batch.id := rfl
      rw [List.nil_append, ready, List.filterMap_append, callee_calls, older, ← List.map_append]
      exact congrArg _ grows.waiting.symm
    timed := by
      intro batch isOpen
      obtain ⟨wasOpen, differs⟩ := open_expire isOpen
      refine (sound.timed batch wasOpen).imp (stays _ ?_) (stays _ ?_)
      · rcases timer with rfl | rfl <;> simp [differs]
      · rcases timer with rfl | rfl <;> simp [differs]
    asleep := sound.asleep
    attended := by
      refine sound.attended_of_grows rfl grows rfl ?_
      intro number
      refine stays (.client number) ?_
      rcases timer with rfl | rfl <;> simp }

/-- The timer of a batch falls asleep. -/
theorem runWait {id : Nat} (sound : t.Sound value closed [.wait id]) :
    ∃ later, (t.runJob (.wait id)).Sound value later [] := by
  rw [runJob]
  split
  · exact ⟨_, sound.runExpire (.inl rfl)⟩
  · have asleep := sound.sleep t.wait (.inl ⟨id, rfl⟩)
    have nap : (t.sleep t.wait (.expire id)).Due [] (.expire id) :=
      .inr ⟨_, (mem_insertTimer _ _ _ _).mpr (.inl rfl)⟩
    exact ⟨closed, { asleep with
      timed := by
        intro batch isOpen
        by_cases same : batch.id = id
        · exact .inr (same ▸ nap)
        · exact (asleep.timed batch isOpen).imp (·.of_ne (by simpa using same))
            (·.of_ne (by simp))
      attended := by
        intro number client present
        exact (asleep.attended number client present).mono (·.of_ne (by simp))
          (fun _ _ carries => carries) (fun _ _ unseen => .inr unseen) }⟩

/-- The call that has its turn is the one of the batch that has waited longest. -/
theorem runCall_eq {id : Nat} (sound : t.Sound value closed [.call id]) :
    ∃ batch rest loader, t.loader.waiting = batch :: rest ∧ batch.id = id ∧
      loader = (t.loader.begin id).complete id (BatchAnswer.pointwise value batch.keys) ∧
      t.runCall id = ({ t with loader } : Clocked κ ν).publish id := by
  have calls := sound.calls
  cases waiting : t.loader.waiting with
  | nil => simp [waiting, Job.callee] at calls
  | cons batch rest =>
    obtain rfl : id = batch.id := by
      rw [waiting] at calls
      exact (List.cons.inj calls).1
    refine ⟨batch, rest, _, rfl, rfl, rfl, ?_⟩
    have idle : t.loader.running.any (·.id == batch.id) = false := by simp [sound.calm.1]
    have found : (t.loader.begin batch.id).running.find? (·.id == batch.id) = some batch := by
      simp [Loader.begin, waiting, sound.active, sound.calm.1]
    simp only [Clocked.runCall, idle, found, sound.pointwise]
    rfl

theorem runCall {id : Nat} (sound : t.Sound value closed [.call id]) :
    ∃ later, (t.runCall id).Sound value later [] := by
  obtain ⟨batch, rest, loader, waiting, rfl, answered, leads⟩ := sound.runCall_eq
  obtain ⟨given, consistent, _⟩ := sound.serves
  obtain ⟨settled, cache, calls, served⟩ := Loader.served_of_call waiting
    consistent.staged.waiting_nodup sound.active sound.calm (BatchAnswer.pointwise value batch.keys)
  obtain ⟨woken, published, _, clients, all⟩ := publish_eq { t with loader } batch.id
  obtain ⟨later, serves, kept⟩ := Loader.serves_of_call sound.serves waiting sound.active sound.calm
  have final : loader.publish batch.id = { t.loader with
      cache, waiting := rest, settled := (batch.id, settled) :: t.loader.settled, calls } := by
    rw [answered, served]
  rw [← answered] at serves kept
  rw [leads, published]
  refine ⟨later, ?_⟩
  have stays : ∀ job, job ≠ .call batch.id → t.Due [.call batch.id] job →
      Due { t with loader := loader.publish batch.id, ready := t.ready ++ woken } [] job :=
    fun job differs due =>
      (due.of_ne differs).mono (List.subset_append_left _ _) (List.Subset.refl _)
  exact {
    serves := serves
    active := by
      dsimp only
      rw [final]
      exact sound.active
    pointwise := sound.pointwise
    calm := by
      dsimp only
      rw [final]
      exact sound.calm
    calls := by
      have older := sound.calls
      rw [waiting] at older
      dsimp only
      rw [final, List.nil_append, List.filterMap_append, callee_clients clients, List.append_nil]
      exact (List.cons.inj older).2
    timed := by
      dsimp only
      rw [final]
      intro other isOpen
      exact (sound.timed other isOpen).imp (stays _ (by simp)) (stays _ (by simp))
    asleep := sound.asleep
    attended := by
      intro number client present
      refine (sound.attended number client present).mono (stays _ (by simp)) kept ?_
      intro slots phase unseen
      by_cases touched : ∃ slot, .ok slot ∈ slots ∧ slot.batch = batch.id
      · obtain ⟨slot, member, same⟩ := touched
        exact .inl (.inl (all number (same ▸ mem_waitingFor present phase member)))
      · refine .inr (Eq.trans (Loader.peekAll_congr ?_) unseen)
        intro slot member
        have differs : slot.batch ≠ batch.id := fun same => touched ⟨slot, member, same⟩
        simp [final, Loader.peek, List.lookup_cons, beq_eq_false_iff_ne.mpr differs] }

/-! ## Turns and the clock -/

/-- The first of the tasks that are ready gets its turn. -/
theorem pop {job : Job} {rest : List Job} (sound : t.Sound value closed [])
    (ready : t.ready = job :: rest) : Sound { t with ready := rest } value closed [job] := by
  have stays : ∀ other, t.Due [] other → Due { t with ready := rest } [job] other := by
    intro other due
    simpa [Due, ready] using due
  exact {
    serves := sound.serves
    active := sound.active
    pointwise := sound.pointwise
    calm := sound.calm
    calls := by
      have older := sound.calls
      rw [ready] at older
      exact older
    timed := fun batch isOpen => (sound.timed batch isOpen).imp (stays _) (stays _)
    asleep := sound.asleep
    attended := fun number client present => (sound.attended number client present).mono
      (stays _) (fun _ _ carries => carries) (fun _ _ unseen => .inr unseen) }

theorem runJob {job : Job} (sound : t.Sound value closed [job]) :
    ∃ later, (t.runJob job).Sound value later [] := by
  cases job with
  | wait id => exact sound.runWait
  | expire id => exact ⟨_, sound.runExpire (.inr rfl)⟩
  | call id => exact sound.runCall
  | client number => exact sound.runClient

theorem advance (sound : t.Sound value closed []) (moment : Nat) :
    (t.advance moment).Sound value closed [] := by
  have stays : ∀ job, t.Due [] job → (t.advance moment).Due [] job := by
    intro job due
    rcases due with awake | ⟨deadline, asleep⟩
    · have ready : job ∈ t.ready := awake
      exact .inl (List.mem_append_left _ ready : job ∈ t.ready ++ _)
    · rw [← List.takeWhile_append_dropWhile (p := fun nap => decide (nap.1 ≤ moment))
        (l := t.timers)] at asleep
      rcases List.mem_append.mp asleep with woken | later
      · exact .inl (List.mem_append_right t.ready (List.mem_map.mpr ⟨_, woken, rfl⟩))
      · exact .inr ⟨deadline, later⟩
  exact {
    serves := sound.serves
    active := sound.active
    pointwise := sound.pointwise
    calm := sound.calm
    calls := by
      have noCalls : ((t.timers.takeWhile (·.1 ≤ moment)).map (·.2)).filterMap Job.callee = [] := by
        rw [List.filterMap_eq_nil_iff]
        intro job member
        obtain ⟨nap, asleep, rfl⟩ := List.mem_map.mp member
        rcases sound.asleep nap (List.takeWhile_subset _ asleep) with ⟨_, same⟩ | ⟨_, same⟩ <;>
          rw [same] <;> rfl
      have older := sound.calls
      rw [List.nil_append] at older
      rw [List.nil_append, Clocked.advance, List.filterMap_append, noCalls, List.append_nil, older]
    timed := fun batch isOpen => (sound.timed batch isOpen).imp (stays _) (stays _)
    asleep := fun nap member => sound.asleep nap (List.dropWhile_subset _ member)
    attended := fun number client present => (sound.attended number client present).mono
      (stays _) (fun _ _ carries => carries) (fun _ _ unseen => .inr unseen) }

/-- A client joins, and its task has its turn. -/
theorem join (sound : t.Sound value closed []) {client : Client κ ν}
    (attends : client.Attended t.loader closed value True) :
    Sound { t with clients := t.clients ++ [client] } value closed
      [.client t.clients.length] := by
  have stays : ∀ job, t.Due [] job →
      Due { t with clients := t.clients ++ [client] } [.client t.clients.length] job :=
    fun job due => due.imp (List.mem_append_right _) id
  exact {
    serves := sound.serves
    active := sound.active
    pointwise := sound.pointwise
    calm := sound.calm
    calls := sound.calls
    timed := fun batch isOpen => (sound.timed batch isOpen).imp (stays _) (stays _)
    asleep := sound.asleep
    attended := by
      intro number other present
      simp only [List.getElem?_append] at present
      split at present
      · exact (sound.attended number other present).mono (stays _)
          (fun _ _ carries => carries) (fun _ _ unseen => .inr unseen)
      · have last : number = t.clients.length := by
          have inside := (List.getElem?_eq_some_iff.mp present).1
          simp only [List.length_singleton] at inside
          omega
        subst last
        obtain rfl : client = other := by simpa using present
        exact attends.mono (fun _ => .inl (List.mem_append_left _ (List.mem_singleton_self _)))
          (fun _ _ carries => carries) (fun _ _ unseen => .inr unseen) }

/-- A client that has its turn may also wait for it. -/
theorem push {number : Nat} (sound : t.Sound value closed [.client number]) :
    Sound { t with ready := t.ready ++ [.client number] } value closed [] := by
  have stays : ∀ job, t.Due [.client number] job →
      Due { t with ready := t.ready ++ [.client number] } [] job := by
    intro job due
    rcases due with awake | asleep
    · refine .inl (?_ : job ∈ t.ready ++ [.client number])
      rcases List.mem_append.mp awake with current | waiting
      · exact List.mem_append_right _ current
      · exact List.mem_append_left _ waiting
    · exact .inr asleep
  exact {
    serves := sound.serves
    active := sound.active
    pointwise := sound.pointwise
    calm := sound.calm
    calls := by
      rw [List.nil_append, List.filterMap_append]
      exact (List.append_nil _).trans sound.calls
    timed := fun batch isOpen => (sound.timed batch isOpen).imp (stays _) (stays _)
    asleep := sound.asleep
    attended := fun number client present => (sound.attended number client present).mono
      (stays _) (fun _ _ carries => carries) (fun _ _ unseen => .inr unseen) }

theorem addClient (sound : t.Sound value closed []) (delay : Nat) (keys : List κ) :
    (t.addClient delay keys).Sound value closed [] := by
  have attends : Client.Attended ⟨keys, .new delay⟩ t.loader closed value True := trivial
  exact (sound.join attends).push

end Sound

theorem sound_start {capacity : Nat} (positive : 1 ≤ capacity) (wait : Nat)
    (value : κ → Except LookupError ν) :
    (start capacity wait fun _ keys =>
      some (BatchAnswer.pointwise value keys)).Sound value [] [] where
  serves := Loader.serves_empty capacity positive value
  active := rfl
  pointwise := fun _ _ => rfl
  calm := ⟨rfl, rfl⟩
  calls := rfl
  timed := by simp [start, Loader.empty]
  asleep := by simp [start]
  attended := by simp [start]

end Clocked

end Transit
