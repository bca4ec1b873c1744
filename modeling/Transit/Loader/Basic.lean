import Transit.Error
set_option autoImplicit false

/-!
A loader collects the keys that are asked for into batches, hands each batch to a fetcher once, and
remembers what it learnt about each key.

The loader is a machine that moves by small steps, each of which is one uninterrupted turn of some
task: a key is submitted, the wait of a batch is over, the task of a batch begins or ends, the
result of a batch is made known. A batch is open while keys may still join it, then waiting for its
task, then running at the fetcher, then settling, and at last settled.
-/

namespace Transit

/-- Where the value of a key will be: the batch that carries the key and the position in it. -/
structure Slot where
  batch : Nat
  index : Nat
  deriving DecidableEq, Repr, Inhabited

structure Batch (κ : Type) where
  id : Nat
  keys : List κ
  deriving DecidableEq, Repr, Inhabited

/-- What a fetcher answers to a batch: an error for all of its keys, or one entry for each. -/
abbrev BatchAnswer (ν : Type) := Except LookupError (List (Except LookupError ν))

/-- How a batch ended. -/
inductive Outcome (ν : Type)
  | cancelled
  | failed (cause : LookupError)
  | values (entries : List (Except LookupError ν))
  deriving Repr, Inhabited

namespace Outcome

variable {ν : Type} [Inhabited ν]

/-- A fetcher has to give one entry for each key; otherwise every key gets the empty value. -/
def ofResult (keys : Nat) : BatchAnswer ν → Outcome ν
  | .error e => .failed e
  | .ok entries =>
    if entries.length == keys then .values entries
    else .values (List.replicate keys (.ok default))

/-- The key at a position got no value. -/
def isFailure (o : Outcome ν) (index : Nat) : Bool :=
  match o with
  | .cancelled => true
  | .failed _ => true
  | .values entries => (entries[index]?).any fun e => match e with
    | .error _ => true
    | .ok _ => false

/-- What is learnt about the key at a position. -/
def entry (o : Outcome ν) (index : Nat) : Except LoadError ν :=
  match o with
  | .cancelled => .error .cancelled
  | .failed e => .error (.failed e)
  | .values entries =>
    match entries[index]? with
    | none => .ok default
    | some (.ok v) => .ok v
    | some (.error e) => .error (.failed e)

end Outcome

/-- `calls` lists the batches handed to the fetcher, oldest first. -/
structure Loader (κ ν : Type) where
  capacity : Nat
  cancelled : Bool := false
  cache : List (κ × Slot) := []
  openBatch : Option (Batch κ) := none
  nextId : Nat := 0
  waiting : List (Batch κ) := []
  running : List (Batch κ) := []
  settling : List (Batch κ × Outcome ν) := []
  settled : List (Nat × Outcome ν) := []
  calls : List (Batch κ) := []
  deriving Repr

namespace Loader

variable {κ ν : Type} [DecidableEq κ]

/-- A loader that has been asked for nothing yet. -/
def empty (capacity : Nat) : Loader κ ν := { capacity }

/-- The batch that the next new key joins. -/
def currentBatch (l : Loader κ ν) : Batch κ :=
  l.openBatch.getD ⟨l.nextId, []⟩

/-- Put a new key into the current batch, which closes when it is full. -/
def join (l : Loader κ ν) (key : κ) : Loader κ ν :=
  let batch := l.currentBatch
  let slot : Slot := ⟨batch.id, batch.keys.length⟩
  let batch := { batch with keys := batch.keys ++ [key] }
  let l := { l with
    cache := (key, slot) :: l.cache
    nextId := if l.openBatch.isNone then l.nextId + 1 else l.nextId }
  if l.capacity ≤ batch.keys.length then
    { l with openBatch := none, waiting := l.waiting ++ [batch] }
  else { l with openBatch := some batch }

/-- Ask for a key. A known key keeps its slot; after cancellation no key gets one. -/
def submit (l : Loader κ ν) (key : κ) : Except LoadError Slot × Loader κ ν :=
  if l.cancelled then (.error .cancelled, l)
  else
    match l.cache.lookup key with
    | some slot => (.ok slot, l)
    | none => (.ok ⟨l.currentBatch.id, l.currentBatch.keys.length⟩, l.join key)

/-- Ask for several keys in order. -/
def submitAll (l : Loader κ ν) : List κ → List (Except LoadError Slot) × Loader κ ν
  | [] => ([], l)
  | key :: rest =>
    let (slot, l) := l.submit key
    let (slots, l) := l.submitAll rest
    (slot :: slots, l)

/-- The wait of a batch is over. Nothing happens when it has been closed before. -/
def expire (l : Loader κ ν) (id : Nat) : Loader κ ν :=
  match l.openBatch with
  | some batch =>
    if batch.id == id then { l with openBatch := none, waiting := l.waiting ++ [batch] } else l
  | none => l

/-- Forget the keys of a batch that got no value from it. -/
def evict (cache : List (κ × Slot)) (batch : Batch κ) (outcome : Outcome ν) :
    List (κ × Slot) :=
  cache.filter fun (key, slot) =>
    !(slot.batch == batch.id && batch.keys.contains key && outcome.isFailure slot.index)

/-- A batch has ended. What failed may be asked for again from now on. -/
def settle (l : Loader κ ν) (batch : Batch κ) (outcome : Outcome ν) : Loader κ ν :=
  { l with
    cache := evict l.cache batch outcome
    settling := l.settling ++ [(batch, outcome)] }

/-- The task of a batch begins: it calls the fetcher unless the request has been cancelled. -/
def begin (l : Loader κ ν) (id : Nat) : Loader κ ν :=
  match l.waiting.find? (·.id == id) with
  | none => l
  | some batch =>
    let l := { l with waiting := l.waiting.filter (·.id != id) }
    if l.cancelled then l.settle batch .cancelled
    else { l with running := l.running ++ [batch], calls := l.calls ++ [batch] }

/-- The fetcher has answered. -/
def complete [Inhabited ν] (l : Loader κ ν) (id : Nat) (result : BatchAnswer ν) : Loader κ ν :=
  match l.running.find? (·.id == id) with
  | none => l
  | some batch =>
    ({ l with running := l.running.filter (·.id != id) }).settle batch
      (.ofResult batch.keys.length result)

/-- A task at the fetcher gives up after cancellation. -/
def abort (l : Loader κ ν) (id : Nat) : Loader κ ν :=
  match l.running.find? (·.id == id) with
  | none => l
  | some batch =>
    if l.cancelled then
      ({ l with running := l.running.filter (·.id != id) }).settle batch .cancelled
    else l

/-- Make the result of a batch known to those who wait for it. -/
def publish (l : Loader κ ν) (id : Nat) : Loader κ ν :=
  match l.settling.find? (·.1.id == id) with
  | none => l
  | some (batch, outcome) =>
    { l with
      settling := l.settling.filter (·.1.id != id)
      settled := (batch.id, outcome) :: l.settled }

def cancel (l : Loader κ ν) : Loader κ ν := { l with cancelled := true }

/-- What a waiting task sees in its slot: a result that is known, else that it has been cancelled,
else nothing yet. -/
def peek [Inhabited ν] (l : Loader κ ν) (slot : Slot) : Option (Except LoadError ν) :=
  match l.settled.lookup slot.batch with
  | some outcome => some (outcome.entry slot.index)
  | none => if l.cancelled then some (.error .cancelled) else none

/-- What is seen in all of the slots, once something is seen in each. -/
def peekAll? [Inhabited ν] (l : Loader κ ν) (slots : List (Except LoadError Slot)) :
    Option (List (Except LoadError ν)) :=
  slots.mapM fun slot => match slot with
    | .error e => some (.error e)
    | .ok slot => l.peek slot

/-- The turns that tasks take at a loader. -/
inductive Event (κ ν : Type)
  | submit (key : κ)
  | expire (id : Nat)
  | begin (id : Nat)
  | complete (id : Nat) (result : BatchAnswer ν)
  | abort (id : Nat)
  | publish (id : Nat)
  | cancel

def step [Inhabited ν] (l : Loader κ ν) : Event κ ν → Loader κ ν
  | .submit key => (l.submit key).2
  | .expire id => l.expire id
  | .begin id => l.begin id
  | .complete id result => l.complete id result
  | .abort id => l.abort id
  | .publish id => l.publish id
  | .cancel => l.cancel

/-- The loader after some turns, in any order. -/
def run [Inhabited ν] (l : Loader κ ν) (events : List (Event κ ν)) : Loader κ ν :=
  events.foldl step l

end Loader

end Transit
