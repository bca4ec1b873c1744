import Mathlib.Tactic.Simps.Basic
import Transit.Loader.Clocked
set_option autoImplicit false

/-!
# Relabelled values

No loader and no runtime looks at the values that it hands on. So whoever relabels them, in the
answers of the fetcher and in whatever has been learnt from it, gets a runtime that takes the same
turns (`Clocked.map_load`, `Clocked.map_staged`).
-/

namespace Transit

variable {κ ν μ : Type}

def BatchAnswer.map (label : ν → μ) : BatchAnswer ν → BatchAnswer μ :=
  Except.map (List.map (Except.map label))

/-! ## Outcomes -/

namespace Outcome

def map (label : ν → μ) : Outcome ν → Outcome μ
  | .cancelled => .cancelled
  | .failed cause => .failed cause
  | .values entries => .values (entries.map (Except.map label))

theorem map_isFailure (label : ν → μ) (outcome : Outcome ν) (index : Nat) :
    (outcome.map label).isFailure index = outcome.isFailure index := by
  cases outcome with
  | cancelled => rfl
  | failed cause => rfl
  | values entries =>
    simp only [map, isFailure, List.getElem?_map]
    cases entries[index]? with
    | none => rfl
    | some entry => cases entry <;> rfl

variable [Inhabited ν] [Inhabited μ] {label : ν → μ}

theorem map_entry (plain : label default = default) (outcome : Outcome ν) (index : Nat) :
    (outcome.map label).entry index = (outcome.entry index).map label := by
  cases outcome with
  | cancelled => rfl
  | failed cause => rfl
  | values entries =>
    simp only [map, entry, List.getElem?_map]
    cases entries[index]? with
    | none => exact congrArg Except.ok plain.symm
    | some entry => cases entry <;> rfl

theorem map_ofResult (plain : label default = default) (keys : Nat) (answer : BatchAnswer ν) :
    ofResult keys (BatchAnswer.map label answer) = (ofResult keys answer).map label := by
  cases answer with
  | error cause => rfl
  | ok entries =>
    by_cases same : entries.length = keys
    · simp [BatchAnswer.map, Except.map, ofResult, same, map]
    · simp [BatchAnswer.map, Except.map, ofResult, same, map, plain]

end Outcome

/-! ## Loaders -/

namespace Loader

@[simps]
def map (label : ν → μ) (l : Loader κ ν) : Loader κ μ where
  capacity := l.capacity
  cancelled := l.cancelled
  cache := l.cache
  openBatch := l.openBatch
  nextId := l.nextId
  waiting := l.waiting
  running := l.running
  settling := l.settling.map fun (batch, outcome) => (batch, outcome.map label)
  settled := l.settled.map fun (id, outcome) => (id, outcome.map label)
  calls := l.calls

variable (label : ν → μ) (l : Loader κ ν)

theorem map_join (key : κ) : (l.map label).join key = (l.join key).map label := by
  unfold join
  have same : (l.map label).currentBatch = l.currentBatch := rfl
  simp only [same, map_capacity]
  split <;> rfl

theorem map_expire (id : Nat) : (l.map label).expire id = (l.expire id).map label := by
  simp only [expire, map_openBatch]
  split
  · split <;> rfl
  · rfl

theorem map_publish (id : Nat) : (l.map label).publish id = (l.publish id).map label := by
  simp only [publish, map_settling, List.find?_map, Function.comp_def]
  cases l.settling.find? (·.1.id == id) with
  | none => rfl
  | some pair => simp [map, List.filter_map, Function.comp_def]

section

variable [Inhabited ν] [Inhabited μ] {label} (plain : label default = default)

include plain

theorem map_peek (slot : Slot) : (l.map label).peek slot = (l.peek slot).map (Except.map label) := by
  have known : (l.map label).settled.lookup slot.batch =
      (l.settled.lookup slot.batch).map (Outcome.map label) := by
    rw [map_settled]
    induction l.settled with
    | nil => rfl
    | cons first rest ih =>
      rw [List.map_cons, List.lookup_cons, List.lookup_cons, ih]
      cases slot.batch == first.1 <;> rfl
  rw [peek, known, peek]
  cases l.settled.lookup slot.batch with
  | some outcome => simp [Outcome.map_entry plain]
  | none => cases stopped : l.cancelled <;> simp [stopped, Except.map]

theorem map_peekAll (slots : List (Except LoadError Slot)) :
    (l.map label).peekAll? slots = (l.peekAll? slots).map (List.map (Except.map label)) := by
  unfold peekAll?
  induction slots with
  | nil => rfl
  | cons first rest ih =>
    rw [List.mapM_cons, List.mapM_cons, ih]
    generalize List.mapM (m := Option) _ rest = others
    cases first with
    | error e => cases others <;> rfl
    | ok slot =>
      dsimp only
      rw [map_peek l plain]
      cases l.peek slot <;> cases others <;> rfl

end

variable [DecidableEq κ]

theorem map_submit (key : κ) :
    (l.map label).submit key = ((l.submit key).1, (l.submit key).2.map label) := by
  simp only [submit, map_cancelled, map_cache, map_join]
  split
  · rfl
  · split <;> rfl

theorem map_settle (batch : Batch κ) (outcome : Outcome ν) :
    (l.map label).settle batch (outcome.map label) = (l.settle batch outcome).map label := by
  simp [settle, evict, map, Outcome.map_isFailure]

theorem map_begin (id : Nat) : (l.map label).begin id = (l.begin id).map label := by
  simp only [begin, map_waiting]
  cases l.waiting.find? (·.id == id) with
  | none => rfl
  | some batch =>
    by_cases stopped : l.cancelled
    · simp only [map_cancelled, if_pos stopped]
      exact map_settle label { l with waiting := l.waiting.filter (·.id != id) } batch .cancelled
    · simp only [map_cancelled, if_neg stopped]
      rfl

theorem map_abort (id : Nat) : (l.map label).abort id = (l.abort id).map label := by
  simp only [abort, map_running]
  cases l.running.find? (·.id == id) with
  | none => rfl
  | some batch =>
    by_cases stopped : l.cancelled
    · simp only [map_cancelled, if_pos stopped]
      exact map_settle label { l with running := l.running.filter (·.id != id) } batch .cancelled
    · simp only [map_cancelled, if_neg stopped]

variable {label} [Inhabited ν] [Inhabited μ] (plain : label default = default)

include plain

theorem map_complete (id : Nat) (answer : BatchAnswer ν) :
    (l.map label).complete id (BatchAnswer.map label answer) = (l.complete id answer).map label := by
  simp only [complete, map_running]
  cases l.running.find? (·.id == id) with
  | none => rfl
  | some batch =>
    simp only [Outcome.map_ofResult plain]
    exact map_settle label { l with running := l.running.filter (·.id != id) } batch _

end Loader

/-! ## Runtimes -/

namespace Clocked

def Phase.map (label : ν → μ) : Phase ν → Phase μ
  | .new delay => .new delay
  | .asleep => .asleep
  | .loading slots => .loading slots
  | .done results => .done (results.map (Except.map label))

@[simps]
def Client.map (label : ν → μ) (c : Client κ ν) : Client κ μ where
  keys := c.keys
  phase := c.phase.map label

@[simps]
def map (label : ν → μ) (t : Clocked κ ν) : Clocked κ μ where
  loader := t.loader.map label
  wait := t.wait
  fetch call keys := (t.fetch call keys).map (BatchAnswer.map label)
  now := t.now
  ready := t.ready
  timers := t.timers
  clients := t.clients.map (Client.map label)

variable (label : ν → μ) (t : Clocked κ ν)

theorem map_wake (job : Job) : (t.map label).wake job = (t.wake job).map label := by
  simp only [wake, map_ready]
  split <;> rfl

theorem map_waitingFor (batch : Nat) : (t.map label).waitingFor batch = t.waitingFor batch := by
  simp only [waitingFor, map_clients, List.zipIdx_map, List.filter_map, List.map_map]
  congr 1
  refine List.filter_congr ?_
  intro (client, number) _
  cases phase : client.phase <;> simp [Client.map, phase, Phase.map]

theorem map_publish (batch : Nat) : (t.map label).publish batch = (t.publish batch).map label := by
  have wakes : ∀ (numbers : List Nat) (t : Clocked κ ν),
      numbers.foldl (fun t n => t.wake (.client n)) (t.map label) =
        (numbers.foldl (fun t n => t.wake (.client n)) t).map label :=
    fun _ _ => List.foldl_hom (Clocked.map label) fun t n => map_wake label t (.client n)
  rw [publish, publish, map_waitingFor, ← wakes]
  simp only [map_loader, Loader.map_publish]
  rfl

theorem map_setPhase (number : Nat) (phase : Phase ν) :
    (t.map label).setPhase number (phase.map label) = (t.setPhase number phase).map label := by
  have clients : (t.clients.map (Client.map label)).modify number
        (fun c => { c with phase := phase.map label }) =
      (t.clients.modify number fun c => { c with phase }).map (Client.map label) := by
    apply List.ext_getElem?
    intro i
    simp only [List.getElem?_map, List.getElem?_modify]
    cases t.clients[i]? with
    | none => rfl
    | some client => by_cases same : number = i <;> simp [same, Client.map]
  rw [setPhase, map_clients, clients]
  rfl

theorem map_runExpire (batch : Nat) :
    (t.map label).runExpire batch = (t.runExpire batch).map label := by
  simp only [runExpire, map_loader, Loader.map_expire]
  rfl

theorem map_turnBound : (t.map label).turnBound = t.turnBound := by
  simp [turnBound, Function.comp_def]

theorem map_roundBound : (t.map label).roundBound = t.roundBound := by
  simp [roundBound, Function.comp_def]

section

variable [DecidableEq κ]

theorem map_submit (key : κ) :
    (t.map label).submit key = ((t.submit key).1, (t.submit key).2.map label) := by
  simp only [submit, map_loader, Loader.map_submit]
  rfl

theorem map_submitAll (keys : List κ) :
    (t.map label).submitAll keys = ((t.submitAll keys).1, (t.submitAll keys).2.map label) := by
  induction keys generalizing t with
  | nil => rfl
  | cons key rest ih => simp only [submitAll, map_submit, ih]

end

theorem map_results (c : Client κ ν) :
    (c.map label).results? = c.results?.map (List.map (Except.map label)) := by
  cases phase : c.phase <;> simp [Client.results?, Client.map, phase, Phase.map]

variable [Inhabited ν] [Inhabited μ] {label} (plain : label default = default)

include plain

theorem map_look (number : Nat) (slots : List (Except LoadError Slot)) :
    (t.map label).look number slots = (t.look number slots).map label := by
  rw [look, map_loader, Loader.map_peekAll t.loader plain, look]
  cases t.loader.peekAll? slots with
  | none => exact map_setPhase label t number (.loading slots)
  | some results => exact map_setPhase label t number (.done results)

variable [DecidableEq κ]

theorem map_runCall (batch : Nat) : (t.map label).runCall batch = (t.runCall batch).map label := by
  simp only [runCall, map_loader, Loader.map_running, Loader.map_cancelled, Loader.map_calls,
    Loader.map_begin, map_fetch]
  split
  · split
    · rw [← map_publish, Loader.map_abort]
      rfl
    · rfl
  · cases (t.loader.begin batch).running.find? (·.id == batch) with
    | none => exact map_publish label { t with loader := t.loader.begin batch } batch
    | some called =>
      dsimp only
      cases t.fetch t.loader.calls.length called.keys with
      | none => rfl
      | some answer =>
        rw [← map_publish]
        simp only [Option.map_some, Loader.map_complete _ plain]
        rfl

theorem map_beginLoad (number : Nat) (keys : List κ) :
    (t.map label).beginLoad number keys = (t.beginLoad number keys).map label := by
  simp only [beginLoad, map_submitAll, map_look _ plain]

theorem map_runJob (job : Job) : (t.map label).runJob job = (t.runJob job).map label := by
  cases job with
  | wait batch =>
    simp only [runJob, map_wait, map_runExpire]
    split <;> rfl
  | expire batch => exact map_runExpire label t batch
  | call batch => exact map_runCall t plain batch
  | client number =>
    simp only [runJob, map_clients, List.getElem?_map]
    cases t.clients[number]? with
    | none => rfl
    | some client =>
      simp only [Option.map_some, Client.map]
      cases client.phase with
      | new delay =>
        cases delay with
        | zero => exact map_beginLoad t plain number client.keys
        | succ delay =>
          exact map_setPhase label (t.sleep (delay + 1) (.client number)) number .asleep
      | asleep => exact map_beginLoad t plain number client.keys
      | loading slots => exact map_look t plain number slots
      | done results => rfl

theorem map_drain : (t.map label).drain = t.drain.map label := by
  have turns : ∀ (turns : Nat) (t : Clocked κ ν),
      drainTurns turns (t.map label) = (drainTurns turns t).map label := by
    intro turns
    induction turns with
    | zero => exact fun _ => rfl
    | succ turns ih =>
      intro t
      simp only [drainTurns, map_ready]
      cases t.ready with
      | nil => rfl
      | cons job rest =>
        dsimp only
        rw [← ih, ← map_runJob _ plain]
        rfl
  rw [drain, map_turnBound, turns, drain]

/-- A wait for something that the values have no part in. -/
theorem map_waitUntil (goal : Clocked κ ν → Bool) (other : Clocked κ μ → Bool)
    (same : ∀ t, other (t.map label) = goal t) :
    (t.map label).waitUntil other = (t.waitUntil goal).map label := by
  have rounds : ∀ (rounds : Nat) (t : Clocked κ ν),
      waitRounds other rounds (t.map label) = (waitRounds goal rounds t).map label := by
    intro rounds
    induction rounds with
    | zero => exact fun _ => rfl
    | succ rounds ih =>
      intro t
      simp only [waitRounds, map_drain _ plain, same, map_timers]
      split
      · rfl
      · cases t.drain.timers with
        | nil => rfl
        | cons first rest => exact ih (t.drain.advance first.1)
  rw [waitUntil, map_roundBound, rounds, waitUntil]

theorem map_load (keys : List κ) :
    (t.map label).load keys =
      ((t.load keys).1.map (Except.map label), (t.load keys).2.map label) := by
  have ends : ∀ (number : Nat) (t : Clocked κ ν),
      (t.map label).waitUntil (fun t => (t.clients[number]?).any (·.results?.isSome)) =
        (t.waitUntil fun t => (t.clients[number]?).any (·.results?.isSome)).map label := by
    intro number t
    refine map_waitUntil t plain _ _ ?_
    intro t
    simp only [map_clients, List.getElem?_map]
    cases t.clients[number]? <;> simp [map_results]
  have result : ∀ (number : Nat) (t : Clocked κ ν),
      (((t.map label).clients[number]?).bind (·.results?)).getD [] =
        (((t.clients[number]?).bind (·.results?)).getD []).map (Except.map label) := by
    intro number t
    simp only [map_clients, List.getElem?_map]
    cases t.clients[number]? with
    | none => rfl
    | some client =>
      rw [Option.map_some, Option.bind_some, map_results, Option.bind_some]
      cases client.results? <;> rfl
  simp only [load, map_submitAll, map_clients, List.length_map]
  generalize (t.submitAll keys).1 = slots
  generalize (t.submitAll keys).2 = asked
  have joined : { asked.map label with
        clients := asked.clients.map (Client.map label) ++ [⟨keys, .loading slots⟩] } =
      Clocked.map label { asked with clients := asked.clients ++ [⟨keys, .loading slots⟩] } := by
    simp [map, Client.map, Phase.map]
  rw [joined, map_look _ plain, ends, result]

theorem map_staged (groups : List (Nat × List κ)) :
    (t.map label).staged groups =
      ((t.staged groups).1.map (List.map (Except.map label)), (t.staged groups).2.map label) := by
  have joined : ∀ t : Clocked κ ν,
      groups.foldl (fun t group => t.addClient group.1 group.2) (t.map label) =
        (groups.foldl (fun t group => t.addClient group.1 group.2) t).map label := by
    refine fun _ => List.foldl_hom (Clocked.map label) ?_
    intro t group
    simp [addClient, map, Client.map, Phase.map]
  have ends : ∀ t : Clocked κ ν, (t.map label).waitUntil (·.clients.all (·.results?.isSome)) =
      (t.waitUntil (·.clients.all (·.results?.isSome))).map label := by
    intro t
    refine map_waitUntil t plain _ _ ?_
    intro t
    simp [Function.comp_def, map_results]
  simp only [staged, joined, ends]
  refine congrArg (·, _) ?_
  simp only [resultsFrom, map_clients, List.length_map, ← List.map_drop, List.map_map]
  refine List.map_congr_left ?_
  intro client _
  simp only [Function.comp_apply, map_results]
  cases client.results? <;> rfl

end Clocked

end Transit
