import Transit.Loader.Basic
set_option autoImplicit false

/-!
A loader and its clients on a clock. Tasks that are ready run one after another in the order in
which they became ready; when none is left, the clock moves on to the next moment for which some
task is sleeping. The main task has precedence: it goes on before others that wake at the same
moment, and otherwise as soon as no task is ready.
-/

namespace Transit

namespace Clocked

/-- What a client is doing. -/
inductive Phase (ν : Type)
  | new (delay : Nat)
  | asleep
  | loading (slots : List (Except LoadError Slot))
  | done (results : List (Except LoadError ν))
  deriving Repr, Inhabited

/-- A task that loads keys after a delay. -/
structure Client (κ ν : Type) where
  keys : List κ
  phase : Phase ν
  deriving Repr, Inhabited

/-- The tasks beside the main one: the wait of a batch, before and after its sleep; the call for a
batch; a client. -/
inductive Job
  | wait (batch : Nat)
  | expire (batch : Nat)
  | call (batch : Nat)
  | client (number : Nat)
  deriving DecidableEq, Repr

end Clocked

/-- `fetch` answers a call for some keys, given the calls before it; `none` when it never does. -/
structure Clocked (κ ν : Type) where
  loader : Loader κ ν
  wait : Nat
  fetch : Nat → List κ → Option (BatchAnswer ν)
  now : Nat := 0
  ready : List Clocked.Job := []
  /-- Sleeping tasks by the moment of waking, those that fell asleep first in front. -/
  timers : List (Nat × Clocked.Job) := []
  clients : List (Clocked.Client κ ν) := []

namespace Clocked

variable {κ ν : Type} [DecidableEq κ] [Inhabited ν]

def start (capacity wait : Nat) (fetch : Nat → List κ → Option (BatchAnswer ν)) : Clocked κ ν :=
  { loader := .empty capacity, wait, fetch }

def insertTimer (deadline : Nat) (job : Job) : List (Nat × Job) → List (Nat × Job)
  | [] => [(deadline, job)]
  | (d, j) :: rest =>
    if deadline < d then (deadline, job) :: (d, j) :: rest
    else (d, j) :: insertTimer deadline job rest

def wake (t : Clocked κ ν) (job : Job) : Clocked κ ν :=
  if t.ready.contains job then t else { t with ready := t.ready ++ [job] }

def sleep (t : Clocked κ ν) (ms : Nat) (job : Job) : Clocked κ ν :=
  { t with timers := insertTimer (t.now + ms) job t.timers }

/-- Submit a key, and start the tasks that this calls for: the wait of a batch that the key opens,
and the call of a batch that it fills. -/
def submit (t : Clocked κ ν) (key : κ) : Except LoadError Slot × Clocked κ ν :=
  let before := t.loader
  let (slot, loader) := before.submit key
  let opened := if before.nextId < loader.nextId then [Job.wait before.nextId] else []
  let filled := (loader.waiting.drop before.waiting.length).map fun b => Job.call b.id
  (slot, { t with loader, ready := t.ready ++ opened ++ filled })

def submitAll (t : Clocked κ ν) : List κ → List (Except LoadError Slot) × Clocked κ ν
  | [] => ([], t)
  | key :: rest =>
    let (slot, t) := t.submit key
    let (slots, t) := t.submitAll rest
    (slot :: slots, t)

/-- The clients that have a slot in a batch. -/
def waitingFor (t : Clocked κ ν) (batch : Nat) : List Nat :=
  (t.clients.zipIdx.filter fun (c, _) => match c.phase with
    | .loading slots => slots.any fun s => match s with
      | .ok slot => slot.batch == batch
      | .error _ => false
    | _ => false).map (·.2)

/-- Make the result of a batch known and wake those who wait for it. -/
def publish (t : Clocked κ ν) (batch : Nat) : Clocked κ ν :=
  (t.waitingFor batch).foldl (fun t n => t.wake (.client n))
    { t with loader := t.loader.publish batch }

def setPhase (t : Clocked κ ν) (number : Nat) (phase : Phase ν) : Clocked κ ν :=
  { t with clients := t.clients.modify number fun c => { c with phase } }

/-- A loading client is done when there is something in each of its slots. -/
def look (t : Clocked κ ν) (number : Nat) (slots : List (Except LoadError Slot)) : Clocked κ ν :=
  match t.loader.peekAll? slots with
  | some results => t.setPhase number (.done results)
  | none => t.setPhase number (.loading slots)

/-- The call for a batch: it may end at once, hang, or be given up. -/
def runCall (t : Clocked κ ν) (batch : Nat) : Clocked κ ν :=
  if t.loader.running.any (·.id == batch) then
    if t.loader.cancelled then ({ t with loader := t.loader.abort batch }).publish batch else t
  else
    let call := t.loader.calls.length
    let loader := t.loader.begin batch
    match loader.running.find? (·.id == batch) with
    | none => ({ t with loader }).publish batch
    | some b =>
      match t.fetch call b.keys with
      | none => { t with loader }
      | some result => ({ t with loader := loader.complete batch result }).publish batch

/-- The wait of a batch is over: if it is still open, its call is started. -/
def runExpire (t : Clocked κ ν) (batch : Nat) : Clocked κ ν :=
  let loader := t.loader.expire batch
  let closed := (loader.waiting.drop t.loader.waiting.length).map fun b => Job.call b.id
  { t with loader, ready := t.ready ++ closed }

def beginLoad (t : Clocked κ ν) (number : Nat) (keys : List κ) : Clocked κ ν :=
  let (slots, t) := t.submitAll keys
  t.look number slots

/-- One turn of a task. -/
def runJob (t : Clocked κ ν) : Job → Clocked κ ν
  | .wait batch => if t.wait == 0 then t.runExpire batch else t.sleep t.wait (.expire batch)
  | .expire batch => t.runExpire batch
  | .call batch => t.runCall batch
  | .client number =>
    match t.clients[number]? with
    | none => t
    | some c =>
      match c.phase with
      | .new 0 => t.beginLoad number c.keys
      | .new delay => (t.sleep delay (.client number)).setPhase number .asleep
      | .asleep => t.beginLoad number c.keys
      | .loading slots => t.look number slots
      | .done _ => t

/-- Let ready tasks take turns, at most so many. -/
def drainTurns : Nat → Clocked κ ν → Clocked κ ν
  | 0, t => t
  | turns + 1, t =>
    match t.ready with
    | [] => t
    | job :: rest => drainTurns turns (({ t with ready := rest }).runJob job)

/-- No more turns than this can be taken before all tasks sleep or wait: a batch takes four turns
and wakes no client twice, and there are no more batches than keys. -/
def turnBound (t : Clocked κ ν) : Nat :=
  let keys := (t.clients.map (·.keys.length)).foldl (· + ·) 0
  let batches := t.loader.nextId + keys + 1
  t.ready.length + 4 * batches + (batches + 4) * (t.clients.length + 1)

/-- Let all ready tasks take turns until none is ready. -/
def drain (t : Clocked κ ν) : Clocked κ ν :=
  drainTurns t.turnBound t

/-- Move the clock to a moment; the tasks whose time has come become ready. -/
def advance (t : Clocked κ ν) (moment : Nat) : Clocked κ ν :=
  { t with
    now := moment
    ready := t.ready ++ (t.timers.takeWhile (·.1 ≤ moment)).map (·.2)
    timers := t.timers.dropWhile (·.1 ≤ moment) }

/-- The main task waits until something holds: tasks take turns, and the clock moves on when none
is ready. Each round uses up a moment at which some task wakes, so the rounds are bounded. -/
def waitRounds (goal : Clocked κ ν → Bool) : Nat → Clocked κ ν → Clocked κ ν
  | 0, t => t
  | rounds + 1, t =>
    let t := t.drain
    if goal t then t
    else
      match t.timers with
      | [] => t
      | (moment, _) :: _ => waitRounds goal rounds (t.advance moment)

/-- A client sleeps once, and so does each batch. -/
def roundBound (t : Clocked κ ν) : Nat :=
  let keys := (t.clients.map (·.keys.length)).foldl (· + ·) 0
  t.timers.length + t.ready.length + t.clients.length + t.loader.nextId + keys + 2

def waitUntil (t : Clocked κ ν) (goal : Clocked κ ν → Bool) : Clocked κ ν :=
  waitRounds goal t.roundBound t

/-- Rounds up to a moment at which the main task wakes, before others that wake with it. -/
def sleepRounds (moment : Nat) : Nat → Clocked κ ν → Clocked κ ν
  | 0, t => t.advance moment
  | rounds + 1, t =>
    let t := t.drain
    match t.timers with
    | [] => t.advance moment
    | (d, _) :: _ => if d < moment then sleepRounds moment rounds (t.advance d) else t.advance moment

/-- The main task sleeps. -/
def sleepMain (t : Clocked κ ν) (ms : Nat) : Clocked κ ν :=
  if ms == 0 then t else sleepRounds (t.now + ms) t.roundBound t

/-- Cancellation wakes whoever waits: clients in their order, then calls that hang. -/
def cancel (t : Clocked κ ν) : Clocked κ ν :=
  let loading := (t.clients.zipIdx.filter fun (c, _) => match c.phase with
    | .loading _ => true
    | _ => false).map fun (_, n) => Job.client n
  let hanging := t.loader.running.map fun b => Job.call b.id
  (loading ++ hanging).foldl wake { t with loader := t.loader.cancel }

def addClient (t : Clocked κ ν) (delay : Nat) (keys : List κ) : Clocked κ ν :=
  { t with
    clients := t.clients ++ [⟨keys, .new delay⟩]
    ready := t.ready ++ [.client t.clients.length] }

def Client.results? (c : Client κ ν) : Option (List (Except LoadError ν)) :=
  match c.phase with
  | .done results => some results
  | _ => none

/-- The results of the clients from a number on; a client that is not done has none. -/
def resultsFrom (t : Clocked κ ν) (first : Nat) : List (List (Except LoadError ν)) :=
  (t.clients.drop first).map fun c => c.results?.getD []

/-- The main task loads keys itself. -/
def load (t : Clocked κ ν) (keys : List κ) : List (Except LoadError ν) × Clocked κ ν :=
  let number := t.clients.length
  let (slots, t) := t.submitAll keys
  let client : Client κ ν := { keys, phase := .loading slots }
  let t := ({ t with clients := t.clients ++ [client] }).look number slots
  let t := t.waitUntil fun t => (t.clients[number]?).any (·.results?.isSome)
  (((t.clients[number]?).bind (·.results?)).getD [], t)

/-- Start a client for each group and wait for all of them. -/
def staged (t : Clocked κ ν) (groups : List (Nat × List κ)) :
    List (List (Except LoadError ν)) × Clocked κ ν :=
  let first := t.clients.length
  let t := groups.foldl (fun t (delay, keys) => t.addClient delay keys) t
  let t := t.waitUntil fun t => t.clients.all (·.results?.isSome)
  (t.resultsFrom first, t)

/-- Start a client, cancel after a while, and see what the client got. -/
def loadCancel (t : Clocked κ ν) (keys : List κ) (after : Nat) :
    List (Except LoadError ν) × Clocked κ ν :=
  let number := t.clients.length
  let t := (t.addClient 0 keys).sleepMain after
  let t := t.cancel.waitUntil fun t => (t.clients[number]?).any (·.results?.isSome)
  (((t.clients[number]?).bind (·.results?)).getD [], t.sleepMain 1000)

end Clocked

end Transit
