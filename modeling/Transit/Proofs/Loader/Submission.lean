import Transit.Proofs.Loader.Progress
set_option autoImplicit false

/-!
# Several keys at once

A task that waits for several keys submits them one after another. Each key is carried by a slot, or
denied because the request has been cancelled (`Promised`), and what is seen in the slots later is
what the answers hold for the keys (`Promised.sound`).
-/

namespace Transit

namespace Loader

variable {κ ν : Type}

/-- A batch is found by its id among batches with different ids. -/
theorem find_of_mem {batches : List (Batch κ)} (distinct : (batches.map (·.id)).Nodup)
    {batch : Batch κ} (member : batch ∈ batches) :
    batches.find? (·.id == batch.id) = some batch := by
  obtain ⟨found, isFound, same⟩ := find_of_mem_map Batch.id (List.mem_map_of_mem member)
  have inside := List.mem_of_find?_eq_some isFound
  obtain rfl := List.inj_on_of_nodup_map distinct inside member same
  exact isFound

/-- A slot is denied by cancellation only, and otherwise carries its key. -/
def Promised (l : Loader κ ν) (closed : List (Batch κ)) (slots : List (Except LoadError Slot))
    (keys : List κ) : Prop :=
  List.Forall₂ (fun given key => (given = .error .cancelled ∧ l.cancelled = true) ∨
    ∃ slot, given = .ok slot ∧ l.Carries closed slot key) slots keys

/-- Nothing is denied while the loader goes on. -/
theorem Promised.handed {l : Loader κ ν} {closed : List (Batch κ)}
    {slots : List (Except LoadError Slot)} {keys : List κ} (promised : l.Promised closed slots keys)
    (active : l.cancelled = false) : l.Handed closed slots keys := by
  refine promised.imp ?_
  intro given key either
  rcases either with ⟨_, stopped⟩ | handed
  · rw [active] at stopped
    contradiction
  · exact handed

/-- The loader goes on and has no call under way. -/
def Calm (l : Loader κ ν) : Prop :=
  l.cancelled = false ∧ l.running = [] ∧ l.settling = []

/-- A loader with nothing to do has settled whatever carries a key. -/
theorem peek_of_idle [Inhabited ν] {l : Loader κ ν} {closed : List (Batch κ)}
    (staged : l.Staged closed) (calm : l.Calm) (idle : l.openBatch = none ∧ l.waiting = [])
    {slot : Slot} {key : κ} (carries : l.Carries closed slot key) :
    ∃ seen, l.peek slot = some seen := by
  obtain ⟨stage, inStage⟩ := stage_of_carries staged carries
  obtain ⟨_, noRunning, noSettling⟩ := calm
  obtain ⟨noOpen, noWaiting⟩ := idle
  cases stage with
  | gathering => simp [idsIn, noOpen] at inStage
  | waiting => simp [idsIn, noWaiting] at inStage
  | running => simp [idsIn, noRunning] at inStage
  | settling => simp [idsIn, noSettling] at inStage
  | settled => exact peek_of_settled inStage

section
variable [DecidableEq κ]

/-- What becomes of a batch whose task begins. -/
theorem begin_of_due {l : Loader κ ν} {closed : List (Batch κ)} (staged : l.Staged closed)
    {batch : Batch κ} (due : batch ∈ l.waiting) :
    if l.cancelled then
      l.begin batch.id = (l.unqueue batch.id).settle batch .cancelled ∧
        (l.begin batch.id).running.any (·.id == batch.id) = false
    else
      (l.begin batch.id).running.any (·.id == batch.id) = true ∧
        (l.begin batch.id).running.find? (·.id == batch.id) = some batch := by
  have found := find_of_mem staged.waiting_nodup due
  have apart : ∀ other ∈ l.running, ¬ (other.id == batch.id) = true := by
    intro other runs
    simpa using (staged.waiting_ne_running due runs).symm
  cases stopped : l.cancelled with
  | true =>
    refine ⟨by simp [begin, found, stopped, unqueue], ?_⟩
    simpa [begin, found, stopped, settle] using apart
  | false =>
    have none := List.find?_eq_none.mpr apart
    simp [begin, found, stopped, List.find?_append, none]

theorem waiting_begin {l : Loader κ ν} {closed : List (Batch κ)} (staged : l.Staged closed)
    {batch : Batch κ} {rest : List (Batch κ)} (waiting : l.waiting = batch :: rest) :
    (l.begin batch.id).waiting = rest := by
  have distinct := staged.waiting_nodup
  rw [waiting] at distinct
  have others := filter_ne_of_nodup distinct
  cases stopped : l.cancelled <;> simp [begin, waiting, stopped, settle, others]

@[simp] theorem openBatch_begin (l : Loader κ ν) (id : Nat) :
    (l.begin id).openBatch = l.openBatch := by
  unfold begin
  split
  · rfl
  · dsimp only
    split <;> rfl

@[simp] theorem openBatch_complete [Inhabited ν] (l : Loader κ ν) (id : Nat)
    (answer : BatchAnswer ν) : (l.complete id answer).openBatch = l.openBatch := by
  unfold complete
  split <;> rfl

@[simp] theorem waiting_complete [Inhabited ν] (l : Loader κ ν) (id : Nat)
    (answer : BatchAnswer ν) : (l.complete id answer).waiting = l.waiting := by
  unfold complete
  split <;> rfl

theorem Calm.submit {l : Loader κ ν} (calm : l.Calm) (key : κ) : (l.submit key).2.Calm := by
  cases known : l.cache.lookup key with
  | some slot => simpa [Loader.submit, calm.1, known] using calm
  | none =>
    have joins : (l.submit key).2 = l.join key := by simp [Loader.submit, calm.1, known]
    rw [joins]
    by_cases room : l.currentBatch.keys.length + 1 < l.capacity
    · rw [l.join_of_room key room]
      exact calm
    · rw [l.join_of_full key (Nat.le_of_not_lt room)]
      exact calm

theorem Calm.submitAll {l : Loader κ ν} (calm : l.Calm) (keys : List κ) :
    (l.submitAll keys).2.Calm := by
  induction keys generalizing l with
  | nil => exact calm
  | cons key rest ih => exact ih (calm.submit key)

end

@[simp] theorem openBatch_publish (l : Loader κ ν) (id : Nat) :
    (l.publish id).openBatch = l.openBatch := by
  unfold publish
  split <;> rfl

@[simp] theorem waiting_publish (l : Loader κ ν) (id : Nat) :
    (l.publish id).waiting = l.waiting := by
  unfold publish
  split <;> rfl

variable [DecidableEq κ] [Inhabited ν]

theorem submitAll_run (l : Loader κ ν) (keys : List κ) :
    (l.submitAll keys).2 = l.run (keys.map .submit) := by
  induction keys generalizing l with
  | nil => rfl
  | cons key rest ih => exact ih (l.submit key).2

theorem answers_submits (l : Loader κ ν) (keys : List κ) :
    l.answers (keys.map .submit) = [] := by
  induction keys generalizing l with
  | nil => rfl
  | cons key rest ih => exact ih (l.step (.submit key))

theorem cancelled_run {l : Loader κ ν} (stopped : l.cancelled = true) (events : List (Event κ ν)) :
    (l.run events).cancelled = true := by
  induction events generalizing l with
  | nil => exact stopped
  | cons e rest ih =>
    refine ih ?_
    by_cases isCancel : e = .cancel
    · subst isCancel
      rfl
    · rw [cancelled_turn (turn_of_step l e) isCancel]
      exact stopped

theorem Promised.run {l : Loader κ ν} {closed : List (Batch κ)}
    {slots : List (Except LoadError Slot)} {keys : List κ} (promised : l.Promised closed slots keys)
    (events : List (Event κ ν)) :
    (l.run events).Promised (closed ++ l.closedBatches events) slots keys := by
  refine promised.imp ?_
  intro given key either
  rcases either with ⟨denied, stopped⟩ | ⟨slot, handed, carries⟩
  · exact .inl ⟨denied, cancelled_run stopped events⟩
  · exact .inr ⟨slot, handed, carries.run events⟩

theorem Consistent.promised {l : Loader κ ν} {closed : List (Batch κ)}
    {given : List (Batch κ × BatchAnswer ν)} (consistent : l.Consistent closed given)
    (keys : List κ) :
    (l.submitAll keys).2.Promised (closed ++ l.closedBatches (keys.map .submit))
      (l.submitAll keys).1 keys := by
  induction keys generalizing l closed given with
  | nil => exact .nil
  | cons key rest ih =>
    have next := consistent.turn (turn_of_step l (.submit key))
    have others := ih next
    rw [List.append_assoc] at others
    refine .cons ?_ others
    have leads : (l.submitAll (key :: rest)).2 =
        (l.step (.submit key)).run (rest.map .submit) := submitAll_run _ rest
    rw [leads]
    cases handed : (l.submit key).1 with
    | error e =>
      obtain ⟨rfl, stopped⟩ := submit_error handed
      have stays : (l.step (.submit key)).cancelled = true := by
        rw [cancelled_turn (turn_of_step l _) (by simp)]
        exact stopped
      exact .inl ⟨handed, cancelled_run stays _⟩
    | ok slot =>
      have carries := (consistent.carries_of_submit handed).run (rest.map .submit)
      rw [List.append_assoc] at carries
      exact .inr ⟨slot, handed, carries⟩

/-- If every answer gives the keys their values at one of several sources, then what is seen for a
key is cancellation or the value of the key at one of them. -/
theorem Promised.sound {ω : Type} {l : Loader κ ν} {closed : List (Batch κ)}
    {given : List (Batch κ × BatchAnswer ν)} {slots : List (Except LoadError Slot)} {keys : List κ}
    {seen : List (Except LoadError ν)} {origin : ω → Prop} {value : ω → κ → Except LookupError ν}
    (promised : l.Promised closed slots keys) (consistent : l.Consistent closed given)
    (fetched : ∀ batch answer, (batch, answer) ∈ given →
      ∃ w, origin w ∧ ∀ key ∈ keys, Gives batch answer key (value w key))
    (peeked : l.peekAll? slots = some seen) :
    List.Forall₂ (fun key got => (got = .error .cancelled ∧ l.cancelled = true) ∨
      ∃ w, origin w ∧ got = LoadError.ofEntry (value w key)) keys seen := by
  induction promised generalizing seen with
  | nil =>
    obtain rfl : [] = seen := by simpa [peekAll?] using peeked
    exact .nil
  | cons first _ ih =>
    have others := fun batch answer inGiven =>
      (fetched batch answer inGiven).imp fun w => And.imp_right fun gives key inRest =>
        gives key (List.mem_cons_of_mem _ inRest)
    rcases first with ⟨rfl, stopped⟩ | ⟨slot, rfl, carries⟩
    · obtain ⟨rest, restSeen, rfl⟩ := peekAll_cons_error.mp peeked
      exact .cons (.inl ⟨rfl, stopped⟩) (ih others restSeen)
    · obtain ⟨head, rest, headSeen, restSeen, rfl⟩ := peekAll_cons.mp peeked
      refine .cons ?_ (ih others restSeen)
      rcases consistent.holds_of_peek carries headSeen with cancelled | origin
      · exact .inl cancelled
      · obtain ⟨batch, answer, inGiven, _, _, carried, holds⟩ := origin
        obtain ⟨w, isOrigin, gives⟩ := fetched batch answer inGiven
        exact .inr ⟨w, isOrigin, gives _ List.mem_cons_self _ _ carried holds⟩

end Loader

end Transit
