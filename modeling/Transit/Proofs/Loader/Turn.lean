import Transit.Loader.Basic
set_option autoImplicit false

/-!
# Turns of a loader

What one turn can do to a loader, said once: `Turn` lists the effects that a turn can have, with the
batches that it closes and the answers of the fetcher that it brings, and `turn_of_step` says that
there are no others. The closed batches and the answers of a whole run are gathered in order by
`closedBatches` and `answers`.
-/

namespace Transit

namespace Loader

variable {κ ν : Type}

/-- Batches that are open, waiting for their task, or at the fetcher. A batch is settled by the
turn that ends its call and evicts the keys that failed. -/
def unsettled (l : Loader κ ν) : List (Batch κ) :=
  l.openBatch.toList ++ l.waiting ++ l.running

def grown (l : Loader κ ν) (key : κ) : Batch κ :=
  { l.currentBatch with keys := l.currentBatch.keys ++ [key] }

/-- A new key is in the current batch, which stays open. -/
def entered (l : Loader κ ν) (key : κ) : Loader κ ν :=
  { l with
    cache := (key, ⟨l.currentBatch.id, l.currentBatch.keys.length⟩) :: l.cache
    nextId := if l.openBatch.isNone then l.nextId + 1 else l.nextId
    openBatch := some (l.grown key) }

def close (l : Loader κ ν) (batch : Batch κ) : Loader κ ν :=
  { l with openBatch := none, waiting := l.waiting ++ [batch] }

def unqueue (l : Loader κ ν) (id : Nat) : Loader κ ν :=
  { l with waiting := l.waiting.filter (·.id != id) }

def uncall (l : Loader κ ν) (id : Nat) : Loader κ ν :=
  { l with running := l.running.filter (·.id != id) }

theorem join_of_room (l : Loader κ ν) (key : κ)
    (room : l.currentBatch.keys.length + 1 < l.capacity) : l.join key = l.entered key := by
  have notFull : ¬ l.capacity ≤ (l.currentBatch.keys ++ [key]).length := by
    rw [List.length_append, List.length_singleton]
    omega
  simp only [join, if_neg notFull]
  rfl

theorem join_of_full (l : Loader κ ν) (key : κ)
    (full : l.capacity ≤ l.currentBatch.keys.length + 1) :
    l.join key = (l.entered key).close (l.grown key) := by
  have isFull : l.capacity ≤ (l.currentBatch.keys ++ [key]).length := by
    rw [List.length_append, List.length_singleton]
    exact full
  simp only [join, if_pos isFull]
  rfl

/-- Filtering never makes room for a newly closed batch. -/
theorem drop_filter_length (batches : List (Batch κ)) (keep : Batch κ → Bool) :
    (batches.filter keep).drop batches.length = [] :=
  List.drop_eq_nil_of_le (List.length_filter_le _ _)

variable [DecidableEq κ] [Inhabited ν]

/-- The batches that a turn closes. -/
def closedBy (l : Loader κ ν) (e : Event κ ν) : List (Batch κ) :=
  (l.step e).waiting.drop l.waiting.length

/-- The answer of the fetcher that a turn brings, with the batch that it answers. -/
def answeredBy (l : Loader κ ν) : Event κ ν → List (Batch κ × BatchAnswer ν)
  | .complete id result => (l.running.find? (·.id == id)).toList.map fun batch => (batch, result)
  | _ => []

def closedBatches (l : Loader κ ν) : List (Event κ ν) → List (Batch κ)
  | [] => []
  | e :: rest => l.closedBy e ++ (l.step e).closedBatches rest

def answers (l : Loader κ ν) : List (Event κ ν) → List (Batch κ × BatchAnswer ν)
  | [] => []
  | e :: rest => l.answeredBy e ++ (l.step e).answers rest

/-- What a turn can do to a loader, with the batches it closes and the answers it brings. -/
inductive Turn (l : Loader κ ν) :
    Event κ ν → List (Batch κ) → List (Batch κ × BatchAnswer ν) → Loader κ ν → Prop
  | rest (e : Event κ ν) : Turn l e [] [] l
  | enter (key : κ) (active : l.cancelled = false) (unknown : l.cache.lookup key = none)
      (room : l.currentBatch.keys.length + 1 < l.capacity) :
      Turn l (.submit key) [] [] (l.entered key)
  | fill (key : κ) (active : l.cancelled = false) (unknown : l.cache.lookup key = none)
      (full : l.capacity ≤ l.currentBatch.keys.length + 1) :
      Turn l (.submit key) [l.grown key] [] ((l.entered key).close (l.grown key))
  | expire (batch : Batch κ) (isOpen : l.openBatch = some batch) :
      Turn l (.expire batch.id) [batch] [] (l.close batch)
  | skip (batch : Batch κ) (due : batch ∈ l.waiting) (stopped : l.cancelled = true) :
      Turn l (.begin batch.id) [] [] ((l.unqueue batch.id).settle batch .cancelled)
  | call (batch : Batch κ) (due : batch ∈ l.waiting) (active : l.cancelled = false) :
      Turn l (.begin batch.id) [] []
        { l.unqueue batch.id with
          running := l.running ++ [batch], calls := l.calls ++ [batch] }
  | answer (batch : Batch κ) (result : BatchAnswer ν) (called : batch ∈ l.running) :
      Turn l (.complete batch.id result) [] [(batch, result)]
        ((l.uncall batch.id).settle batch (.ofResult batch.keys.length result))
  | giveUp (batch : Batch κ) (called : batch ∈ l.running) (stopped : l.cancelled = true) :
      Turn l (.abort batch.id) [] [] ((l.uncall batch.id).settle batch .cancelled)
  | publish (batch : Batch κ) (outcome : Outcome ν) (ended : (batch, outcome) ∈ l.settling) :
      Turn l (.publish batch.id) [] []
        { l with
          settling := l.settling.filter (·.1.id != batch.id)
          settled := (batch.id, outcome) :: l.settled }
  | cancel : Turn l .cancel [] [] l.cancel

theorem turn_of_eq {l next : Loader κ ν} {e : Event κ ν} {closed : List (Batch κ)}
    {given : List (Batch κ × BatchAnswer ν)} (turn : Turn l e closed given next)
    (leads : l.step e = next) (closes : next.waiting.drop l.waiting.length = closed)
    (brings : l.answeredBy e = given) :
    Turn l e (l.closedBy e) (l.answeredBy e) (l.step e) := by
  rw [closedBy, leads, closes, brings]
  exact turn

theorem turn_of_idle {l : Loader κ ν} {e : Event κ ν} (idle : l.step e = l)
    (brings : l.answeredBy e = []) : Turn l e (l.closedBy e) (l.answeredBy e) (l.step e) :=
  turn_of_eq (.rest e) idle List.drop_length brings

theorem turn_of_submit (l : Loader κ ν) (key : κ) :
    Turn l (.submit key) (l.closedBy (.submit key)) (l.answeredBy (.submit key))
      (l.step (.submit key)) := by
  cases stopped : l.cancelled with
  | true => exact turn_of_idle (by simp [step, submit, stopped]) rfl
  | false =>
    cases known : l.cache.lookup key with
    | some slot => exact turn_of_idle (by simp [step, submit, stopped, known]) rfl
    | none =>
      have joins : l.step (.submit key) = l.join key := by simp [step, submit, stopped, known]
      by_cases room : l.currentBatch.keys.length + 1 < l.capacity
      · exact turn_of_eq (.enter key stopped known room) (joins.trans (l.join_of_room key room))
          List.drop_length rfl
      · have full := Nat.le_of_not_lt room
        exact turn_of_eq (.fill key stopped known full) (joins.trans (l.join_of_full key full))
          (List.drop_left' rfl) rfl

theorem turn_of_expire (l : Loader κ ν) (id : Nat) :
    Turn l (.expire id) (l.closedBy (.expire id)) (l.answeredBy (.expire id))
      (l.step (.expire id)) := by
  cases isOpen : l.openBatch with
  | none => exact turn_of_idle (by simp [step, expire, isOpen]) rfl
  | some batch =>
    by_cases same : batch.id = id
    · subst same
      exact turn_of_eq (.expire batch isOpen) (by simp [step, expire, isOpen, close])
        (List.drop_left' rfl) rfl
    · exact turn_of_idle (by simp [step, expire, isOpen, same]) rfl

theorem turn_of_begin (l : Loader κ ν) (id : Nat) :
    Turn l (.begin id) (l.closedBy (.begin id)) (l.answeredBy (.begin id))
      (l.step (.begin id)) := by
  cases found : l.waiting.find? (·.id == id) with
  | none => exact turn_of_idle (by simp [step, begin, found]) rfl
  | some batch =>
    have due := List.mem_of_find?_eq_some found
    obtain rfl : batch.id = id := by simpa using List.find?_some found
    cases stopped : l.cancelled with
    | true =>
      exact turn_of_eq (.skip batch due stopped) (by simp [step, begin, found, stopped, unqueue])
        (drop_filter_length _ _) rfl
    | false =>
      exact turn_of_eq (.call batch due stopped) (by simp [step, begin, found, stopped, unqueue])
        (drop_filter_length _ _) rfl

theorem turn_of_complete (l : Loader κ ν) (id : Nat) (result : BatchAnswer ν) :
    Turn l (.complete id result) (l.closedBy (.complete id result))
      (l.answeredBy (.complete id result)) (l.step (.complete id result)) := by
  cases found : l.running.find? (·.id == id) with
  | none => exact turn_of_idle (by simp [step, complete, found]) (by simp [answeredBy, found])
  | some batch =>
    have called := List.mem_of_find?_eq_some found
    obtain rfl : batch.id = id := by simpa using List.find?_some found
    exact turn_of_eq (.answer batch result called) (by simp [step, complete, found, uncall])
      List.drop_length (by simp [answeredBy, found])

theorem turn_of_abort (l : Loader κ ν) (id : Nat) :
    Turn l (.abort id) (l.closedBy (.abort id)) (l.answeredBy (.abort id))
      (l.step (.abort id)) := by
  cases found : l.running.find? (·.id == id) with
  | none => exact turn_of_idle (by simp [step, abort, found]) rfl
  | some batch =>
    have called := List.mem_of_find?_eq_some found
    obtain rfl : batch.id = id := by simpa using List.find?_some found
    cases stopped : l.cancelled with
    | true =>
      exact turn_of_eq (.giveUp batch called stopped)
        (by simp [step, abort, found, stopped, uncall]) List.drop_length rfl
    | false => exact turn_of_idle (by simp [step, abort, found, stopped]) rfl

theorem turn_of_publish (l : Loader κ ν) (id : Nat) :
    Turn l (.publish id) (l.closedBy (.publish id)) (l.answeredBy (.publish id))
      (l.step (.publish id)) := by
  cases found : l.settling.find? (·.1.id == id) with
  | none => exact turn_of_idle (by simp [step, publish, found]) rfl
  | some pair =>
    obtain ⟨batch, outcome⟩ := pair
    have ended := List.mem_of_find?_eq_some found
    obtain rfl : batch.id = id := by simpa using List.find?_some found
    exact turn_of_eq (.publish batch outcome ended) (by simp [step, publish, found])
      List.drop_length rfl

/-- A turn does one of the things that `Turn` lists. -/
theorem turn_of_step (l : Loader κ ν) (e : Event κ ν) :
    Turn l e (l.closedBy e) (l.answeredBy e) (l.step e) := by
  cases e with
  | submit key => exact turn_of_submit l key
  | expire id => exact turn_of_expire l id
  | begin id => exact turn_of_begin l id
  | complete id result => exact turn_of_complete l id result
  | abort id => exact turn_of_abort l id
  | publish id => exact turn_of_publish l id
  | cancel => exact turn_of_eq .cancel rfl List.drop_length rfl

/-! ## Runs -/

theorem run_append (l : Loader κ ν) (before after : List (Event κ ν)) :
    l.run (before ++ after) = (l.run before).run after :=
  List.foldl_append

theorem answers_append (l : Loader κ ν) (before after : List (Event κ ν)) :
    l.answers (before ++ after) = l.answers before ++ (l.run before).answers after := by
  induction before generalizing l with
  | nil => rfl
  | cons e rest ih =>
    have tail := ih (l.step e)
    simp only [List.cons_append, answers, tail, List.append_assoc]
    rfl

theorem closedBatches_append (l : Loader κ ν) (before after : List (Event κ ν)) :
    l.closedBatches (before ++ after) =
      l.closedBatches before ++ (l.run before).closedBatches after := by
  induction before generalizing l with
  | nil => rfl
  | cons e rest ih =>
    have tail := ih (l.step e)
    simp only [List.cons_append, closedBatches, tail, List.append_assoc]
    rfl

theorem capacity_turn {l next : Loader κ ν} {e : Event κ ν} {closed : List (Batch κ)}
    {given : List (Batch κ × BatchAnswer ν)} (turn : Turn l e closed given next) :
    next.capacity = l.capacity := by
  cases turn <;> rfl

theorem capacity_run (l : Loader κ ν) (events : List (Event κ ν)) :
    (l.run events).capacity = l.capacity := by
  induction events generalizing l with
  | nil => rfl
  | cons e rest ih =>
    have first := capacity_turn (turn_of_step l e)
    exact (ih (l.step e)).trans first

/-- What a turn keeps is kept by a run, whatever has been closed and answered on the way. -/
theorem run_induction {P : Loader κ ν → List (Batch κ) → List (Batch κ × BatchAnswer ν) → Prop}
    (keeps : ∀ l e closed given, P l closed given →
      P (l.step e) (closed ++ l.closedBy e) (given ++ l.answeredBy e))
    (l : Loader κ ν) (events : List (Event κ ν)) (closed : List (Batch κ))
    (given : List (Batch κ × BatchAnswer ν)) (holds : P l closed given) :
    P (l.run events) (closed ++ l.closedBatches events) (given ++ l.answers events) := by
  induction events generalizing l closed given with
  | nil => simpa [run, closedBatches, answers] using holds
  | cons e rest ih =>
    have next := ih (l.step e) _ _ (keeps l e closed given holds)
    simpa [run, closedBatches, answers, List.append_assoc] using next

end Loader

end Transit
