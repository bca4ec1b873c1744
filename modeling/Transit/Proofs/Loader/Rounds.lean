import Mathlib.Algebra.GroupWithZero.Nat
import Mathlib.Data.List.Perm.Subperm
import Transit.Proofs.Loader.Progress
import Transit.Proofs.Loader.Tasks
set_option autoImplicit false

/-!
# The end of waiting

While the fetcher answers key by key, the turns and rounds that a runtime allows itself are enough:
every turn uses up `effort` and every round uses up `naps`, so the tasks come to rest, and then all
clients are done (`Sound.all_done`). So loads return the values of their keys (`Sound.load`,
`Sound.staged`).
-/

namespace Transit

namespace Loader

variable {κ ν : Type} [DecidableEq κ] [Inhabited ν]

/-- A submitted key opens at most one batch, and every batch that it closes had been open. -/
theorem submit_counts {l next : Loader κ ν} {key : κ} {shut : List (Batch κ)}
    {given : List (Batch κ × BatchAnswer ν)} (turn : Turn l (.submit key) shut given next) :
    l.nextId ≤ next.nextId ∧ next.nextId ≤ l.nextId + 1 ∧
      next.openBatch.toList.length + shut.length + l.nextId =
        l.openBatch.toList.length + next.nextId := by
  cases turn with
  | rest e => simp
  | enter key active unknown room =>
    cases isOpen : l.openBatch with
    | none => simp [entered, isOpen, Nat.add_comm]
    | some batch => simp [entered, isOpen]
  | fill key active unknown full =>
    cases isOpen : l.openBatch with
    | none => simp [entered, close, isOpen, Nat.add_comm]
    | some batch => simp [entered, close, isOpen]

theorem expire_counts {l next : Loader κ ν} {id : Nat} {shut : List (Batch κ)}
    {given : List (Batch κ × BatchAnswer ν)} (turn : Turn l (.expire id) shut given next) :
    next.openBatch.toList.length + shut.length = l.openBatch.toList.length := by
  cases turn with
  | rest e => simp
  | expire batch isOpen => simp [close, isOpen]

/-- There are no more unsettled batches than have been opened. -/
theorem Consistent.unsettled_length_le {l : Loader κ ν} {closed : List (Batch κ)}
    {given : List (Batch κ × BatchAnswer ν)} (consistent : l.Consistent closed given) :
    l.unsettled.length ≤ l.nextId := by
  have known : l.unsettled.map (·.id) ⊆ List.range l.nextId := by
    intro id member
    obtain ⟨batch, unsettled, rfl⟩ := List.mem_map.mp member
    exact List.mem_range.mpr
      (consistent.staged.fresh batch (consistent.unsettled_batches unsettled))
  have fewer := (List.subperm_of_subset consistent.unsettled_nodup known).length_le
  simpa using fewer

end Loader

namespace Clocked

variable {κ ν : Type}

def Job.isWait : Job → Bool
  | .wait _ => true
  | _ => false

/-- The keys that a client has not submitted yet. -/
def Client.toSubmit (c : Client κ ν) : Nat :=
  match c.phase with
  | .new _ => c.keys.length
  | .asleep => c.keys.length
  | _ => 0

/-- How often a client and the batches that it opens may still fall asleep. -/
def Client.naps (c : Client κ ν) : Nat :=
  match c.phase with
  | .new _ => c.keys.length + 1
  | .asleep => c.keys.length
  | _ => 0

/-- The turns that tasks and batches may still take, with this many clients. -/
def work (t : Clocked κ ν) (clients : Nat) (pending : List Job) : Nat :=
  (pending ++ t.ready).length + t.loader.openBatch.toList.length * (clients + 1) +
    t.loader.waiting.length * clients

/-- The turns that may still be taken: each key may open a batch, with a timer and a call, and each
call may wake all clients. -/
def effort (t : Clocked κ ν) (pending : List Job) : Nat :=
  t.work t.clients.length pending +
    (t.clients.map Client.toSubmit).sum * (t.clients.length + 2)

/-- The timers that run or may still be set. -/
def naps (t : Clocked κ ν) (pending : List Job) : Nat :=
  t.timers.length + (pending ++ t.ready).countP Job.isWait + (t.clients.map Client.naps).sum

theorem sum_map_modify {α : Type} (count : α → Nat) (f : α → α) {xs : List α} {n : Nat} {x : α}
    (present : xs[n]? = some x) :
    ((xs.modify n f).map count).sum + count x = (xs.map count).sum + count (f x) := by
  induction xs generalizing n with
  | nil => simp at present
  | cons first rest ih =>
    cases n with
    | zero =>
      obtain rfl : first = x := by simpa using present
      simp only [List.modify_zero_cons, List.map_cons, List.sum_cons]
      omega
    | succ n =>
      have tail := ih (n := n) (by simpa using present)
      simp only [List.modify_succ_cons, List.map_cons, List.sum_cons]
      omega

theorem length_insertTimer (deadline : Nat) (job : Job) (timers : List (Nat × Job)) :
    (insertTimer deadline job timers).length = timers.length + 1 := by
  induction timers with
  | nil => rfl
  | cons first rest ih =>
    obtain ⟨d, j⟩ := first
    rw [insertTimer]
    split
    · rfl
    · rw [List.length_cons, ih, List.length_cons]

/-- A client that goes on has submitted all of its keys, and will not sleep again. -/
theorem look_eq [Inhabited ν] (t : Clocked κ ν) (number : Nat)
    (slots : List (Except LoadError Slot)) :
    ∃ phase : Phase ν, t.look number slots = t.setPhase number phase ∧
      ∀ keys : List κ, Client.toSubmit ⟨keys, phase⟩ = 0 ∧ Client.naps ⟨keys, phase⟩ = 0 := by
  rw [look]
  split
  · exact ⟨_, rfl, fun _ => ⟨rfl, rfl⟩⟩
  · exact ⟨_, rfl, fun _ => ⟨rfl, rfl⟩⟩

theorem effort_pending (t : Clocked κ ν) (job : Job) : t.effort [job] = t.effort [] + 1 := by
  simp only [effort, work, List.length_append, List.length_singleton, List.length_nil]
  omega

theorem naps_pending (t : Clocked κ ν) (job : Job) : t.naps [] ≤ t.naps [job] := by
  simp only [naps, List.countP_append, List.countP_nil]
  omega

section
variable {t : Clocked κ ν} {number : Nat} {client : Client κ ν}

theorem setPhase_effort (present : t.clients[number]? = some client) (phase : Phase ν)
    (pending : List Job) :
    (t.setPhase number phase).effort pending + client.toSubmit * (t.clients.length + 2) =
      t.effort pending +
        Client.toSubmit { client with phase } * (t.clients.length + 2) := by
  have sums := sum_map_modify Client.toSubmit (fun c : Client κ ν => { c with phase }) present
  have product := congrArg (· * (t.clients.length + 2)) sums
  simp only [Nat.add_mul] at product
  simp only [effort, setPhase, List.length_modify, work] at product ⊢
  omega

theorem setPhase_naps (present : t.clients[number]? = some client) (phase : Phase ν)
    (pending : List Job) :
    (t.setPhase number phase).naps pending + client.naps =
      t.naps pending + Client.naps { client with phase } := by
  have sums := sum_map_modify Client.naps (fun c : Client κ ν => { c with phase }) present
  simp only [naps, setPhase] at sums ⊢
  omega

end

theorem keys_bound (t : Clocked κ ν) :
    (t.clients.map Client.toSubmit).sum ≤ (t.clients.map (·.keys.length)).foldl (· + ·) 0 ∧
      (t.clients.map Client.naps).sum ≤
        (t.clients.map (·.keys.length)).foldl (· + ·) 0 + t.clients.length := by
  rw [← List.sum_eq_foldl_nat]
  induction t.clients with
  | nil => simp
  | cons client rest ih =>
    have one : client.toSubmit ≤ client.keys.length ∧ client.naps ≤ client.keys.length + 1 := by
      simp only [Client.toSubmit, Client.naps]
      cases client.phase <;> simp
    simp only [List.map_cons, List.sum_cons, List.length_cons]
    omega

theorem naps_lt_roundBound (t : Clocked κ ν) : t.naps [] < t.roundBound := by
  have left := (keys_bound t).2
  have waits := List.countP_le_length (p := Job.isWait) (l := t.ready)
  simp only [naps, roundBound, List.nil_append]
  omega

/-- No turn changes what a client asks for. -/
theorem setPhase_keys (t : Clocked κ ν) (number : Nat) (phase : Phase ν) :
    (t.setPhase number phase).clients.map (·.keys) = t.clients.map (·.keys) := by
  apply List.ext_getElem?
  intro i
  simp only [setPhase, List.getElem?_map, List.getElem?_modify]
  cases t.clients[i]? with
  | none => rfl
  | some client =>
    by_cases same : number = i <;> simp [same]

variable [DecidableEq κ] [Inhabited ν]

/-! ## What the turns use up -/

/-- Every batch that is opened or closed is paid for by the key that opens it. -/
theorem balance_mul (clients : Nat) {isOpen wasOpen shut opened : Nat}
    (balance : isOpen + shut = wasOpen + opened) :
    isOpen * (clients + 1) + shut * clients + shut =
      wasOpen * (clients + 1) + opened * (clients + 1) := by
  have product := congrArg (· * (clients + 1)) balance
  simp only [Nat.add_mul, Nat.mul_add, Nat.mul_one] at product ⊢
  omega

theorem submit_work (t : Clocked κ ν) (key : κ) (clients : Nat) (pending : List Job) :
    (t.submit key).2.work clients pending ≤ t.work clients pending + (clients + 2) := by
  have turn := Loader.turn_of_step t.loader (.submit key)
  obtain ⟨lower, upper, balance⟩ := Loader.submit_counts turn
  have waiting := congrArg List.length (grows_submit turn).waiting
  rw [List.length_append] at waiting
  obtain ⟨opened, counted⟩ := Nat.le.dest lower
  have product := balance_mul clients
    (show (t.loader.step (.submit key)).openBatch.toList.length +
      (t.loader.closedBy (.submit key)).length = t.loader.openBatch.toList.length + opened by omega)
  have timers : (if t.loader.nextId < (t.loader.step (.submit key)).nextId
      then [Job.wait t.loader.nextId] else []).length = opened := by
    split <;> simp <;> omega
  have once : opened * (clients + 1) + opened ≤ clients + 2 := by
    have : opened = 0 ∨ opened = 1 := by omega
    rcases this with rfl | rfl <;> simp
  rw [submit_eq]
  simp only [work, started, List.length_append, List.length_map, timers, waiting, Nat.add_mul]
    at product once ⊢
  omega

theorem submit_naps (t : Clocked κ ν) (key : κ) (pending : List Job) :
    (t.submit key).2.naps pending ≤ t.naps pending + 1 := by
  have calls : ((t.loader.closedBy (.submit key)).map fun batch => Job.call batch.id).countP
      Job.isWait = 0 := by
    rw [List.countP_eq_zero]
    intro job member
    obtain ⟨batch, _, rfl⟩ := List.mem_map.mp member
    simp [Job.isWait]
  have timer : (if t.loader.nextId < (t.loader.step (.submit key)).nextId
      then [Job.wait t.loader.nextId] else []).countP Job.isWait ≤ 1 := by
    split <;> simp [Job.isWait]
  rw [submit_eq]
  simp only [naps, started, List.countP_append, calls]
  omega

theorem submitAll_work (t : Clocked κ ν) (keys : List κ) (clients : Nat) (pending : List Job) :
    (t.submitAll keys).2.work clients pending ≤
      t.work clients pending + keys.length * (clients + 2) := by
  induction keys generalizing t with
  | nil => simp [submitAll]
  | cons key rest ih =>
    have first := submit_work t key clients pending
    have others := ih (t.submit key).2
    have leads : (t.submitAll (key :: rest)).2 = ((t.submit key).2.submitAll rest).2 := rfl
    rw [leads, List.length_cons, Nat.succ_mul]
    omega

theorem submitAll_naps (t : Clocked κ ν) (keys : List κ) (pending : List Job) :
    (t.submitAll keys).2.naps pending ≤ t.naps pending + keys.length := by
  induction keys generalizing t with
  | nil => simp [submitAll]
  | cons key rest ih =>
    have first := submit_naps t key pending
    have others := ih (t.submit key).2
    have leads : (t.submitAll (key :: rest)).2 = ((t.submit key).2.submitAll rest).2 := rfl
    rw [leads, List.length_cons]
    omega

section
variable {t : Clocked κ ν} {number : Nat} {client : Client κ ν}

/-- What a client submits uses up what it had left. -/
theorem beginLoad_effort (present : t.clients[number]? = some client)
    (left : client.toSubmit = client.keys.length) (pending : List Job) :
    (t.beginLoad number client.keys).effort pending ≤ t.effort pending := by
  have clients := submitAll_clients t client.keys
  have submitted := submitAll_work t client.keys t.clients.length pending
  obtain ⟨phase, leads, ended⟩ :=
    (t.submitAll client.keys).2.look_eq number (t.submitAll client.keys).1
  have changed := setPhase_effort (clients ▸ present) phase pending
  rw [(ended _).1, left, clients] at changed
  have began : t.beginLoad number client.keys =
      (t.submitAll client.keys).2.look number (t.submitAll client.keys).1 := rfl
  rw [began, leads]
  simp only [effort, clients] at changed submitted ⊢
  omega

theorem beginLoad_naps (present : t.clients[number]? = some client)
    (left : client.keys.length ≤ client.naps) (pending : List Job) :
    (t.beginLoad number client.keys).naps pending ≤ t.naps pending := by
  have clients := submitAll_clients t client.keys
  have submitted := submitAll_naps t client.keys pending
  obtain ⟨phase, leads, ended⟩ :=
    (t.submitAll client.keys).2.look_eq number (t.submitAll client.keys).1
  have changed := setPhase_naps (clients ▸ present) phase pending
  rw [(ended _).2] at changed
  have began : t.beginLoad number client.keys =
      (t.submitAll client.keys).2.look number (t.submitAll client.keys).1 := rfl
  rw [began, leads]
  omega

end

theorem runClient_effort (t : Clocked κ ν) (number : Nat) :
    (t.runJob (.client number)).effort [] + 1 ≤ t.effort [.client number] := by
  rw [effort_pending]
  refine Nat.succ_le_succ ?_
  cases present : t.clients[number]? with
  | none => simp [runJob, present]
  | some client =>
    simp only [runJob, present]
    cases phase : client.phase with
    | new delay =>
      have left : client.toSubmit = client.keys.length := by simp [Client.toSubmit, phase]
      cases delay with
      | zero => exact beginLoad_effort present left []
      | succ delay =>
        have changed := setPhase_effort (t := t.sleep (delay + 1) (.client number)) present
          .asleep []
        have same : Client.toSubmit (⟨client.keys, .asleep⟩ : Client κ ν) = client.toSubmit := by
          simp [Client.toSubmit, phase]
        rw [same] at changed
        exact Nat.le_of_eq (Nat.add_right_cancel changed)
    | asleep =>
      have left : client.toSubmit = client.keys.length := by simp [Client.toSubmit, phase]
      exact beginLoad_effort present left []
    | loading slots =>
      obtain ⟨later, leads, ended⟩ := t.look_eq number slots
      have changed := setPhase_effort present later []
      rw [(ended _).1] at changed
      dsimp only
      rw [leads]
      omega
    | done results => exact Nat.le_refl _

theorem runClient_naps (t : Clocked κ ν) (number : Nat) :
    (t.runJob (.client number)).naps [] ≤ t.naps [] := by
  cases present : t.clients[number]? with
  | none => simp [runJob, present]
  | some client =>
    simp only [runJob, present]
    cases phase : client.phase with
    | new delay =>
      have left : client.naps = client.keys.length + 1 := by simp [Client.naps, phase]
      cases delay with
      | zero => exact beginLoad_naps present (by omega) []
      | succ delay =>
        have changed := setPhase_naps (t := t.sleep (delay + 1) (.client number)) present
          .asleep []
        have fewer : Client.naps (⟨client.keys, .asleep⟩ : Client κ ν) = client.keys.length := rfl
        have slept : (t.sleep (delay + 1) (.client number)).naps [] = t.naps [] + 1 := by
          simp only [naps, sleep, length_insertTimer]
          omega
        rw [fewer, slept, left] at changed
        show ((t.sleep (delay + 1) (.client number)).setPhase number .asleep).naps [] ≤ _
        omega
    | asleep =>
      have left : client.naps = client.keys.length := by simp [Client.naps, phase]
      exact beginLoad_naps present (by omega) []
    | loading slots =>
      obtain ⟨later, leads, ended⟩ := t.look_eq number slots
      have changed := setPhase_naps present later []
      rw [(ended _).2] at changed
      dsimp only
      rw [leads]
      omega
    | done results => exact Nat.le_refl _

theorem runClient_keys (t : Clocked κ ν) (number : Nat) :
    (t.runJob (.client number)).clients.map (·.keys) = t.clients.map (·.keys) := by
  have begins : ∀ keys, (t.beginLoad number keys).clients.map (·.keys) =
      t.clients.map (·.keys) := by
    intro keys
    obtain ⟨phase, leads, _⟩ := (t.submitAll keys).2.look_eq number (t.submitAll keys).1
    have began : t.beginLoad number keys =
        (t.submitAll keys).2.look number (t.submitAll keys).1 := rfl
    rw [began, leads, setPhase_keys, submitAll_clients]
  cases present : t.clients[number]? with
  | none => simp [runJob, present]
  | some client =>
    simp only [runJob, present]
    cases client.phase with
    | new delay =>
      cases delay with
      | zero => exact begins client.keys
      | succ delay => exact setPhase_keys (t.sleep (delay + 1) (.client number)) number .asleep
    | asleep => exact begins client.keys
    | loading slots =>
      obtain ⟨later, leads, _⟩ := t.look_eq number slots
      dsimp only
      rw [leads, setPhase_keys]
    | done results => rfl

theorem runExpire_effort (t : Clocked κ ν) (id : Nat) :
    (t.runExpire id).effort [] = t.effort [] := by
  have turn := Loader.turn_of_step t.loader (.expire id)
  have product := balance_mul t.clients.length
    ((Loader.expire_counts turn).trans (Nat.add_zero _).symm)
  have waiting := congrArg List.length (grows_expire turn).waiting
  rw [List.length_append] at waiting
  have leads : t.runExpire id = { t with
      loader := t.loader.step (.expire id)
      ready := t.ready ++ (t.loader.closedBy (.expire id)).map fun b => Job.call b.id } := rfl
  rw [leads]
  simp only [effort, work, List.nil_append, List.length_append, List.length_map, waiting,
    Nat.add_mul] at product ⊢
  omega

theorem runExpire_naps (t : Clocked κ ν) (id : Nat) : (t.runExpire id).naps [] = t.naps [] := by
  have calls : ((t.loader.closedBy (.expire id)).map fun batch => Job.call batch.id).countP
      Job.isWait = 0 := by
    rw [List.countP_eq_zero]
    intro job member
    obtain ⟨batch, _, rfl⟩ := List.mem_map.mp member
    simp [Job.isWait]
  have ready : (t.runExpire id).ready =
      t.ready ++ (t.loader.closedBy (.expire id)).map fun b => Job.call b.id := rfl
  have same : (t.runExpire id).timers = t.timers ∧ (t.runExpire id).clients = t.clients :=
    ⟨rfl, rfl⟩
  simp only [naps, List.nil_append, ready, List.countP_append, calls, same.1, same.2, Nat.add_zero]

namespace Sound

variable {t : Clocked κ ν} {value : κ → Except LookupError ν} {closed : List (Batch κ)}

/-- The call of a batch wakes no client twice, sets no timer, and leaves the clients alone. -/
theorem runCall_spends {id : Nat} (sound : t.Sound value closed [.call id]) :
    (t.runCall id).effort [] ≤ t.effort [] ∧ (t.runCall id).naps [] = t.naps [] ∧
      (t.runCall id).clients = t.clients := by
  obtain ⟨batch, rest, loader, waiting, rfl, answered, leads⟩ := sound.runCall_eq
  obtain ⟨given, consistent, _⟩ := sound.serves
  obtain ⟨settled, cache, calls, served⟩ := Loader.served_of_call waiting
    consistent.staged.waiting_nodup sound.active sound.calm (BatchAnswer.pointwise value batch.keys)
  obtain ⟨woken, published, bound, clients, _⟩ := publish_eq { t with loader } batch.id
  have noWaits : woken.countP Job.isWait = 0 := by
    rw [List.countP_eq_zero]
    intro job member
    obtain ⟨n, rfl⟩ := clients job member
    simp [Job.isWait]
  rw [leads, published]
  refine ⟨?_, ?_, rfl⟩
  · simp only [effort, work, answered, served, waiting, List.nil_append, List.length_append,
      List.length_cons, Nat.add_mul, Nat.one_mul] at bound ⊢
    omega
  · simp only [naps, List.nil_append, List.countP_append, noWaits, Nat.add_zero]

/-! ## Turns -/

theorem runJob_effort {job : Job} (sound : t.Sound value closed [job]) :
    (t.runJob job).effort [] + 1 ≤ t.effort [job] := by
  cases job with
  | wait id =>
    rw [effort_pending, Clocked.runJob]
    split
    · exact Nat.le_of_eq (by rw [runExpire_effort])
    · exact Nat.le_of_eq rfl
  | expire id =>
    rw [effort_pending, Clocked.runJob]
    exact Nat.le_of_eq (by rw [runExpire_effort])
  | call id =>
    rw [effort_pending]
    exact Nat.succ_le_succ sound.runCall_spends.1
  | client number => exact runClient_effort t number

theorem runJob_naps {job : Job} (sound : t.Sound value closed [job]) :
    (t.runJob job).naps [] ≤ t.naps [job] := by
  cases job with
  | wait id =>
    rw [Clocked.runJob]
    split
    · rw [runExpire_naps]
      exact naps_pending t _
    · simp only [naps, Clocked.sleep, length_insertTimer, List.nil_append, List.countP_append,
        List.countP_singleton, Job.isWait]
      simp
      omega
  | expire id =>
    rw [Clocked.runJob, runExpire_naps]
    exact naps_pending t _
  | call id =>
    have spends := sound.runCall_spends.2.1
    exact Nat.le_trans (Nat.le_of_eq spends) (naps_pending t _)
  | client number => exact Nat.le_trans (runClient_naps t number) (naps_pending t _)

theorem runJob_keys {job : Job} (sound : t.Sound value closed [job]) :
    (t.runJob job).clients.map (·.keys) = t.clients.map (·.keys) := by
  cases job with
  | wait id =>
    rw [Clocked.runJob]
    split <;> rfl
  | expire id => rfl
  | call id => exact congrArg _ sound.runCall_spends.2.2
  | client number => exact runClient_keys t number

/-- With enough turns the tasks come to rest. -/
theorem drainTurns (sound : t.Sound value closed []) (turns : Nat)
    (enough : t.effort [] ≤ turns) :
    (∃ later, (Clocked.drainTurns turns t).Sound value later []) ∧
      (Clocked.drainTurns turns t).ready = [] ∧
      (Clocked.drainTurns turns t).naps [] ≤ t.naps [] ∧
      (Clocked.drainTurns turns t).clients.map (·.keys) = t.clients.map (·.keys) := by
  induction turns generalizing t closed with
  | zero =>
    have rest : t.ready = [] := by
      rw [← List.length_eq_zero_iff]
      simp only [effort, work, List.nil_append] at enough
      omega
    exact ⟨⟨closed, sound⟩, rest, Nat.le_refl _, rfl⟩
  | succ turns ih =>
    cases ready : t.ready with
    | nil =>
      have stays : Clocked.drainTurns (turns + 1) t = t := by simp [Clocked.drainTurns, ready]
      rw [stays]
      exact ⟨⟨closed, sound⟩, ready, Nat.le_refl _, rfl⟩
    | cons job rest =>
      have popped := sound.pop ready
      obtain ⟨later, next⟩ := popped.runJob
      have spent := popped.runJob_effort
      have same : Clocked.effort { t with ready := rest } [job] = t.effort [] := by
        simp only [effort, work, ready, List.nil_append, List.cons_append]
      have slept : Clocked.naps { t with ready := rest } [job] = t.naps [] := by
        simp only [Clocked.naps, ready, List.nil_append, List.cons_append]
      obtain ⟨kept, ended, naps, keys⟩ := ih next (by omega)
      have leads : Clocked.drainTurns (turns + 1) t =
          Clocked.drainTurns turns (({ t with ready := rest } : Clocked κ ν).runJob job) := by
        simp only [Clocked.drainTurns, ready]
      rw [leads]
      have fewer := popped.runJob_naps
      exact ⟨kept, ended, by omega, keys.trans popped.runJob_keys⟩

/-! ## Rounds -/

theorem effort_le_turnBound (sound : t.Sound value closed []) : t.effort [] ≤ t.turnBound := by
  obtain ⟨given, consistent, _⟩ := sound.serves
  have unsettled := consistent.unsettled_length_le
  have submitted := (keys_bound t).1
  simp only [Loader.unsettled, List.length_append] at unsettled
  have batches := Nat.mul_le_mul_right (t.clients.length + 1) (Nat.le_of_add_right_le unsettled)
  have keys := Nat.mul_le_mul_right (t.clients.length + 2) submitted
  simp only [effort, work, turnBound, List.nil_append, Nat.add_mul, Nat.mul_add] at batches keys ⊢
  omega

theorem drain (sound : t.Sound value closed []) :
    (∃ later, t.drain.Sound value later []) ∧ t.drain.ready = [] ∧ t.drain.naps [] ≤ t.naps [] ∧
      t.drain.clients.map (·.keys) = t.clients.map (·.keys) :=
  sound.drainTurns t.turnBound sound.effort_le_turnBound

/-- Every round uses up a moment at which some task wakes. -/
theorem advance_naps (sound : t.Sound value closed []) (ready : t.ready = []) {moment : Nat}
    {job : Job} {rest : List (Nat × Job)} (timers : t.timers = (moment, job) :: rest) :
    (t.advance moment).naps [] + 1 ≤ t.naps [] := by
  have noWaits : ((t.timers.takeWhile (·.1 ≤ moment)).map (·.2)).countP Job.isWait = 0 := by
    rw [List.countP_eq_zero]
    intro other member
    obtain ⟨nap, asleep, rfl⟩ := List.mem_map.mp member
    rcases sound.asleep nap (List.takeWhile_subset _ asleep) with ⟨_, same⟩ | ⟨_, same⟩ <;>
      simp [same, Job.isWait]
  have fewer : (t.timers.dropWhile (·.1 ≤ moment)).length ≤ rest.length := by
    rw [timers, List.dropWhile_cons_of_pos (by simp)]
    exact (List.dropWhile_suffix _).length_le
  simp only [Clocked.naps, Clocked.advance, List.nil_append, ready, timers, List.length_cons,
    List.countP_nil] at noWaits fewer ⊢
  omega

/-- When no task is ready or sleeps, every client has the values of its keys. -/
theorem all_done (sound : t.Sound value closed []) (ready : t.ready = []) (timers : t.timers = [])
    {number : Nat} {client : Client κ ν} (present : t.clients[number]? = some client) :
    client.results? = some (client.keys.map fun key => LoadError.ofEntry (value key)) := by
  have idle : ∀ job, ¬ t.Due [] job := by
    intro job due
    rcases due with awake | ⟨_, asleep⟩
    · rw [ready] at awake
      exact absurd awake (by simp)
    · rw [timers] at asleep
      exact absurd asleep (by simp)
  have noOpen : t.loader.openBatch = none := by
    cases isOpen : t.loader.openBatch with
    | none => rfl
    | some batch => exact ((sound.timed batch isOpen).elim (idle _) (idle _)).elim
  have noWaiting : t.loader.waiting = [] := by
    have calls := sound.calls
    rw [ready] at calls
    exact List.map_eq_nil_iff.mp calls.symm
  have settled : ∀ slot key, t.loader.Carries closed slot key →
      ∃ seen, t.loader.peek slot = some seen := by
    intro slot key carries
    obtain ⟨_, consistent, _⟩ := sound.serves
    obtain ⟨stage, inStage⟩ := Loader.stage_of_carries consistent.staged carries
    cases stage with
    | settled => exact Loader.peek_of_settled inStage
    | _ => simp [Loader.idsIn, noOpen, noWaiting, sound.calm.1, sound.calm.2] at inStage
  have attended := sound.attended number client present
  cases phase : client.phase with
  | new delay =>
    rw [Client.Attended, phase] at attended
    exact (idle _ attended).elim
  | asleep =>
    rw [Client.Attended, phase] at attended
    exact (idle _ attended).elim
  | loading slots =>
    rw [Client.Attended, phase] at attended
    obtain ⟨handed, due | unseen⟩ := attended
    · exact (idle _ due).elim
    · obtain ⟨seen, peeked⟩ := handed.seen settled
      rw [peeked] at unseen
      contradiction
  | done results =>
    rw [Client.Attended, phase] at attended
    rw [Client.results?, phase, attended]

/-- A wait for something that holds when all tasks are at rest comes to its end. -/
theorem waitRounds (goal : Clocked κ ν → Bool) (keys : List (List κ))
    (met : ∀ t closed, Sound t value closed [] → t.clients.map (·.keys) = keys → t.ready = [] →
      t.timers = [] → goal t = true)
    (sound : t.Sound value closed []) (same : t.clients.map (·.keys) = keys) (rounds : Nat)
    (enough : t.naps [] < rounds) :
    (∃ later, (Clocked.waitRounds goal rounds t).Sound value later []) ∧
      goal (Clocked.waitRounds goal rounds t) = true ∧
      (Clocked.waitRounds goal rounds t).clients.map (·.keys) = keys := by
  induction rounds generalizing t closed with
  | zero => omega
  | succ rounds ih =>
    obtain ⟨⟨later, drained⟩, ready, naps, kept⟩ := sound.drain
    have asked := kept.trans same
    by_cases reached : goal t.drain
    · have stops : Clocked.waitRounds goal (rounds + 1) t = t.drain := by
        simp only [Clocked.waitRounds, reached, if_true]
      rw [stops]
      exact ⟨⟨later, drained⟩, reached, asked⟩
    · cases timers : t.drain.timers with
      | nil => exact absurd (met t.drain later drained asked ready timers) reached
      | cons first rest =>
        obtain ⟨moment, job⟩ := first
        have fewer := drained.advance_naps ready timers
        have goesOn : Clocked.waitRounds goal (rounds + 1) t =
            Clocked.waitRounds goal rounds (t.drain.advance moment) := by
          simp only [Clocked.waitRounds, reached, timers]
          rfl
        rw [goesOn]
        exact ih (drained.advance moment) asked (by omega)

theorem results_eq (sound : t.Sound value closed []) {number : Nat} {client : Client κ ν}
    (present : t.clients[number]? = some client) {results : List (Except LoadError ν)}
    (done : client.results? = some results) :
    results = client.keys.map fun key => LoadError.ofEntry (value key) := by
  have attended := sound.attended number client present
  cases phase : client.phase with
  | done found =>
    obtain rfl : found = results := by simpa [Client.results?, phase] using done
    rw [Client.Attended, phase] at attended
    exact attended
  | _ => simp [Client.results?, phase] at done

/-- A client that is waited for is done in the end. -/
theorem waitUntil_done (sound : t.Sound value closed []) {number : Nat} {keys : List κ}
    (asks : (t.clients.map (·.keys))[number]? = some keys) :
    (∃ later, (t.waitUntil fun t => (t.clients[number]?).any
        (·.results?.isSome)).Sound value later []) ∧
      ∃ client results, (t.waitUntil fun t => (t.clients[number]?).any
        (·.results?.isSome)).clients[number]? = some client ∧ client.keys = keys ∧
        client.results? = some results := by
  obtain ⟨⟨later, ended⟩, reached, same⟩ := sound.waitRounds
    (fun t => (t.clients[number]?).any (·.results?.isSome)) (t.clients.map (·.keys)) (by
      intro rest closed calm kept ready timers
      rw [← kept, List.getElem?_map, Option.map_eq_some_iff] at asks
      obtain ⟨client, present, _⟩ := asks
      simp [present, calm.all_done ready timers present]) rfl t.roundBound t.naps_lt_roundBound
  refine ⟨⟨later, ended⟩, ?_⟩
  rw [← same, List.getElem?_map, Option.map_eq_some_iff] at asks
  obtain ⟨client, present, rfl⟩ := asks
  rw [present, Option.any_some, Option.isSome_iff_exists] at reached
  obtain ⟨results, done⟩ := reached
  exact ⟨client, results, present, rfl, done⟩

/-- A client that is waited for gets the values of its keys. -/
theorem waitUntil_client (sound : t.Sound value closed []) {number : Nat} {keys : List κ}
    (asks : (t.clients.map (·.keys))[number]? = some keys) :
    (((t.waitUntil fun t => (t.clients[number]?).any (·.results?.isSome)).clients[number]?).bind
        (·.results?)).getD [] = keys.map (fun key => LoadError.ofEntry (value key)) ∧
      ∃ later, (t.waitUntil fun t => (t.clients[number]?).any
        (·.results?.isSome)).Sound value later [] := by
  obtain ⟨⟨later, ended⟩, client, results, present, rfl, done⟩ := sound.waitUntil_done asks
  refine ⟨?_, later, ended⟩
  rw [present, Option.bind_some, done, Option.getD_some]
  exact ended.results_eq present done

/-- Loads return the values of their keys. -/
theorem load (sound : t.Sound value closed []) (keys : List κ) :
    (t.load keys).1 = keys.map (fun key => LoadError.ofEntry (value key)) ∧
      ∃ later, (t.load keys).2.Sound value later [] := by
  obtain ⟨submitted, begun, handed, _⟩ := sound.submitAll keys
  have clients := submitAll_clients t keys
  simp only [Clocked.load]
  generalize (t.submitAll keys).1 = slots at *
  generalize (t.submitAll keys).2 = asked at *
  rw [← clients]
  have attends : Client.Attended ⟨keys, .loading slots⟩ asked.loader submitted value True :=
    ⟨handed, .inl trivial⟩
  have looked : Sound (Clocked.look
      { asked with clients := asked.clients ++ [⟨keys, .loading slots⟩] }
      asked.clients.length slots) value submitted [] := by
    refine (begun.join attends).look ?_
    intro client present
    obtain rfl : (⟨keys, .loading slots⟩ : Client κ ν) = client := by simpa using present
    exact handed
  refine looked.waitUntil_client ?_
  obtain ⟨phase, leads, _⟩ := look_eq
    { asked with clients := asked.clients ++ [⟨keys, .loading slots⟩] } asked.clients.length slots
  rw [leads, setPhase_keys]
  simp

theorem addClients (sound : t.Sound value closed []) (groups : List (Nat × List κ)) :
    (groups.foldl (fun t (delay, keys) => t.addClient delay keys) t).Sound value closed [] ∧
      (groups.foldl (fun t (delay, keys) => t.addClient delay keys) t).clients.map (·.keys) =
        t.clients.map (·.keys) ++ groups.map (·.2) := by
  induction groups generalizing t with
  | nil => exact ⟨sound, (List.append_nil _).symm⟩
  | cons group rest ih =>
    obtain ⟨kept, keys⟩ := ih (sound.addClient group.1 group.2)
    refine ⟨kept, keys.trans ?_⟩
    simp [Clocked.addClient]

/-- Clients that start at any time, together, all get the values of their keys. -/
theorem staged (sound : t.Sound value closed []) (groups : List (Nat × List κ)) :
    (t.staged groups).1 =
        groups.map (fun group => group.2.map fun key => LoadError.ofEntry (value key)) ∧
      ∃ later, (t.staged groups).2.Sound value later [] := by
  obtain ⟨joined, keys⟩ := sound.addClients groups
  simp only [Clocked.staged, waitUntil]
  generalize groups.foldl (fun t (delay, keys) => t.addClient delay keys) t = started at *
  obtain ⟨⟨later, ended⟩, reached, same⟩ := joined.waitRounds
    (fun t => t.clients.all (·.results?.isSome)) (started.clients.map (·.keys)) (by
      intro rest closed calm _ ready timers
      rw [List.all_eq_true]
      intro client member
      obtain ⟨number, present⟩ := List.getElem?_of_mem member
      simp [calm.all_done ready timers present]) rfl started.roundBound started.naps_lt_roundBound
  refine ⟨?_, later, ended⟩
  generalize Clocked.waitRounds (fun t => t.clients.all (·.results?.isSome)) started.roundBound
    started = finished at *
  have results : finished.clients.map (fun client => client.results?.getD []) =
      (finished.clients.map (·.keys)).map fun keys =>
        keys.map fun key => LoadError.ofEntry (value key) := by
    rw [List.map_map]
    refine List.map_congr_left ?_
    intro client member
    obtain ⟨number, present⟩ := List.getElem?_of_mem member
    have done := List.all_eq_true.mp reached client member
    obtain ⟨found, isFound⟩ := Option.isSome_iff_exists.mp done
    rw [isFound]
    exact ended.results_eq present isFound
  rw [resultsFrom, List.map_drop, results, same, keys, List.map_append, List.map_map]
  rw [List.drop_left' (by simp)]
  simp [Function.comp_def]

end Sound

end Clocked

end Transit
