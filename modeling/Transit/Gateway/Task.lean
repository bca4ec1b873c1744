import Transit.Gateway.Basic
set_option autoImplicit false

/-!
Tasks: what it takes to answer a part of a request. A task looks at the gateway and changes it in
single steps, and waits wherever it needs the values of some keys. While tasks wait, their keys come
together in batches, which are fetched when they are full or when no task can go on.
-/

namespace Transit

inductive Task (α : Type)
  | done (value : α)
  /-- One step: change the gateway, and go on with what was seen before the change. -/
  | act (change : Gateway → Gateway) (next : Gateway → Task α)
  /-- Wait for the values of some keys. -/
  | load (l : Lookup) (keys : List l.Key) (next : List (Except LoadError l.Value) → Task α)

namespace Task

variable {α β : Type}

def bind : Task α → (α → Task β) → Task β
  | .done a, f => f a
  | .act change next, f => .act change fun g => (next g).bind f
  | .load l keys next, f => .load l keys fun values => (next values).bind f

instance : Monad Task where
  pure := .done
  bind := Task.bind

/-- Look at the gateway. -/
def look (view : Gateway → α) : Task α :=
  .act id fun g => .done (view g)

def change (f : Gateway → Gateway) : Task Unit :=
  .act f fun _ => .done ()

/-- Change the gateway and keep what comes of it. -/
def update (f : Gateway → α × Gateway) : Task α :=
  .act (fun g => (f g).2) fun g => .done (f g).1

/-- Ask the warehouse; the call is counted under a name. -/
def ask (method : String) (query : Warehouse → α) : Task α :=
  .act (Gateway.record method) fun g => .done (query g.warehouse)

end Task

namespace Gateway

/-- The state of a loader. -/
def loader (g : Gateway) (l : Lookup) : Loader l.Key l.Value :=
  g.request.loaders l

def setLoader (g : Gateway) (l : Lookup) (loader : Loader l.Key l.Value) : Gateway :=
  { g with request := g.request.setLoader l loader }

/-- Run the call for a batch that has been closed, from its beginning until its result is known. -/
def runBatch (g : Gateway) (l : Lookup) (batch : Batch l.Key) : Gateway :=
  let loader := (g.loader l).begin batch.id
  if loader.running.any (·.id == batch.id) then
    let g := g.record l.method
    g.setLoader l ((loader.complete batch.id (.ok (l.fetch g.warehouse batch.keys))).publish batch.id)
  else g.setLoader l (loader.publish batch.id)

/-- Run the calls for all closed batches of a loader. -/
def runWaiting (g : Gateway) (l : Lookup) : Gateway :=
  (g.loader l).waiting.foldl (fun g batch => g.runBatch l batch) g

/-- The wait of a loader's open batch is over. -/
def expireOpen (g : Gateway) (l : Lookup) : Gateway :=
  match (g.loader l).openBatch with
  | some batch => g.setLoader l ((g.loader l).expire batch.id)
  | none => g

/-- Let a loader do all it has to do: closed batches first, then the open one if somebody still
waits for it. -/
def settle (g : Gateway) (l : Lookup) (slots : List (Except LoadError Slot)) : Gateway :=
  if ((g.loader l).peekAll? slots).isSome then g
  else
    let g := g.runWaiting l
    if ((g.loader l).peekAll? slots).isSome then g else (g.expireOpen l).runWaiting l

end Gateway

namespace Task

variable {α : Type}

/-- Run a task while no other task runs. -/
def run : Task α → Gateway → α × Gateway
  | .done a, g => (a, g)
  | .act change next, g => (next g).run (change g)
  | .load l keys next, g =>
    let (slots, loader) := (g.loader l).submitAll keys
    let g := (g.setLoader l loader).settle l slots
    (next (((g.loader l).peekAll? slots).getD [])).run g

/-- A task that has gone on as far as it could. -/
inductive Poll (α : Type)
  | finished (value : α)
  | blocked (l : Lookup) (slots : List (Except LoadError Slot))
      (next : List (Except LoadError l.Value) → Task α)

/-- Go on until the task ends or has to wait. -/
def poll : Task α → Gateway → Poll α × Gateway
  | .done a, g => (.finished a, g)
  | .act change next, g => (next g).poll (change g)
  | .load l keys next, g =>
    let (slots, loader) := (g.loader l).submitAll keys
    let g := g.setLoader l loader
    match loader.peekAll? slots with
    | some values => (next values).poll g
    | none => (.blocked l slots next, g)

/-- Go on with a task whose values are there. -/
def Poll.again (g : Gateway) : Poll α → Option (Poll α × Gateway)
  | .finished _ => none
  | .blocked l slots next => ((g.loader l).peekAll? slots).map fun values => (next values).poll g

/-- Poll some tasks in order. -/
def pollAll (g : Gateway) : List (Poll α) → List (Poll α) × Bool × Gateway
  | [] => ([], false, g)
  | p :: rest =>
    let (p, moved, g) := match p.again g with
      | some (p, g) => (p, true, g)
      | none => (p, false, g)
    let (ps, others, g) := pollAll g rest
    (p :: ps, moved || others, g)

def Poll.value? : Poll α → Option α
  | .finished a => some a
  | .blocked .. => none

/-- Let tasks go on in rounds until they have ended. Between rounds closed batches are run; when that
lets no task go on, open ones are too. -/
def rounds {σ : Type} (ended : σ → Bool) (goOn : Gateway → σ → σ × Bool × Gateway) :
    Nat → σ → Gateway → σ × Gateway
  | 0, s, g => (s, g)
  | fuel + 1, s, g =>
    if ended s then (s, g)
    else
      let g := Lookup.all.foldl (fun g l => g.runWaiting l) g
      let (s, moved, g) := goOn g s
      if moved then rounds ended goOn fuel s g
      else
        let g := Lookup.all.foldl (fun g l => (g.expireOpen l).runWaiting l) g
        let (s, _, g) := goOn g s
        rounds ended goOn fuel s g

def start (g : Gateway) : List (Task α) → List (Poll α) × Gateway
  | [] => ([], g)
  | t :: rest =>
    let (p, g) := t.poll g
    let (ps, g) := start g rest
    (p :: ps, g)

/-- Run a few tasks together: each round polls all of them in order. -/
def runInOrder (fuel : Nat) (ts : List (Task α)) (g : Gateway) : List (Option α) × Gateway :=
  let (ps, g) := start g ts
  let (ps, g) := rounds (fun ps => ps.all (·.value?.isSome)) pollAll fuel ps g
  (ps.map (·.value?), g)

/-! Many tasks are queued. A turn of the queue has only so many steps; when they are used up, the
tasks that are left give way to whatever else runs, and come back the last of them first. -/

/-- A task that has given way waits for no keys. -/
def Poll.paused (t : Task α) : Poll α := .blocked (.one .stop) [] fun _ => t

def Poll.isPaused : Poll α → Bool
  | .finished _ => false
  | .blocked _ slots _ => slots.isEmpty

/-- Go on until the task ends, has to wait, or has no steps left. -/
def pollFor : Task α → Nat → Gateway → Poll α × Nat × Gateway
  | .done a, steps, g => (.finished a, steps, g)
  | .act change next, 0, g => (.paused (.act change next), 0, g)
  | .act change next, steps + 1, g => (next g).pollFor steps (change g)
  | .load l keys next, steps, g =>
    let (slots, loader) := (g.loader l).submitAll keys
    let g := g.setLoader l loader
    match loader.peekAll? slots with
    | some values => (next values).pollFor steps g
    | none => (.blocked l slots next, steps, g)

def Poll.againFor (steps : Nat) (g : Gateway) : Poll α → Option (Poll α × Nat × Gateway)
  | .finished _ => none
  | .blocked l slots next => ((g.loader l).peekAll? slots).map fun values =>
      (next values).pollFor steps g

/-- What a turn of so many steps leaves of a queue: the tasks that have given way, and the others. -/
def turnFor (g : Gateway) (steps : Nat) :
    List (Nat × Poll α) → List (Nat × Poll α) × List (Nat × Poll α) × Bool × Gateway
  | [] => ([], [], false, g)
  | (place, p) :: rest =>
    match p.againFor steps g with
    | none =>
      let (paused, others, moved, g) := turnFor g steps rest
      (paused, (place, p) :: others, moved, g)
    | some (p, steps, g) =>
      let (paused, others, _, g) := turnFor g steps rest
      if p.isPaused then (paused ++ [(place, p)], others, true, g)
      else (paused, (place, p) :: others, true, g)

/-- The steps of a turn. -/
def turnSteps : Nat := 128

def turn (g : Gateway) (queue : List (Nat × Poll α)) : List (Nat × Poll α) × Bool × Gateway :=
  let (paused, others, moved, g) := turnFor g turnSteps queue
  (paused ++ others, moved, g)

/-- Run many tasks together, in turns. -/
def runQueued (fuel : Nat) (ts : List (Task α)) (g : Gateway) : List (Option α) × Gateway :=
  let queue := ts.zipIdx.map fun (t, place) => (place, .paused t)
  let (queue, g) := rounds (fun queue => queue.all (·.2.value?.isSome)) turn fuel queue g
  ((List.range ts.length).map fun place => (queue.lookup place).bind (·.value?), g)

/-- More tasks than this are many. -/
def fewTasks : Nat := 30

/-- Run tasks together, for at most so many rounds. What did not end by then has no value. -/
def runTogether (fuel : Nat) (ts : List (Task α)) (g : Gateway) : List (Option α) × Gateway :=
  if ts.length ≤ fewTasks then runInOrder fuel ts g else runQueued fuel ts g

end Task

end Transit
