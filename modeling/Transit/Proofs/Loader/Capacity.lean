import Transit.Proofs.Loader.Consistent
set_option autoImplicit false

/-!
# Loaders without capacity

A batch is full once it has as many keys as the capacity, and it always has one. So a loader without
capacity works as one of capacity one (`capped_run`), and what runs keep holds of it too
(`consistent_capped`).
-/

namespace Transit

namespace Loader

variable {κ ν : Type}

/-- The loader with room for at least one key in a batch. -/
def capped (l : Loader κ ν) : Loader κ ν := { l with capacity := max l.capacity 1 }

theorem capped_join (l : Loader κ ν) (key : κ) : (l.join key).capped = l.capped.join key := by
  have same : l.capped.currentBatch = l.currentBatch := rfl
  by_cases room : l.currentBatch.keys.length + 1 < l.capacity
  · have cappedRoom : l.capped.currentBatch.keys.length + 1 < l.capped.capacity :=
      Nat.lt_of_lt_of_le room (Nat.le_max_left _ _)
    rw [l.join_of_room key room, l.capped.join_of_room key cappedRoom]
    rfl
  · have full := Nat.le_of_not_lt room
    have cappedFull : l.capped.capacity ≤ l.capped.currentBatch.keys.length + 1 :=
      Nat.max_le.mpr ⟨full, Nat.le_add_left 1 _⟩
    rw [l.join_of_full key full, l.capped.join_of_full key cappedFull]
    rfl

variable [DecidableEq κ]

theorem capped_submit (l : Loader κ ν) (key : κ) :
    l.capped.submit key = ((l.submit key).1, (l.submit key).2.capped) := by
  have cancelled : l.capped.cancelled = l.cancelled := rfl
  have cache : l.capped.cache = l.cache := rfl
  cases stopped : l.cancelled with
  | true => simp [submit, cancelled, stopped]
  | false =>
    cases known : l.cache.lookup key with
    | some slot => simp [submit, cancelled, stopped, cache, known]
    | none =>
      have joined := capped_join l key
      simp only [submit, cancelled, stopped, cache, known, Bool.false_eq_true, if_false, joined]
      rfl

variable [Inhabited ν]

theorem capped_step (l : Loader κ ν) (e : Event κ ν) : (l.step e).capped = l.capped.step e := by
  cases e with
  | submit key => simp only [step, capped_submit]
  | expire id =>
    cases isOpen : l.openBatch with
    | none => simp [step, expire, capped, isOpen]
    | some batch => by_cases same : batch.id = id <;> simp [step, expire, capped, isOpen, same]
  | begin id =>
    cases found : l.waiting.find? (·.id == id) with
    | none => simp [step, begin, capped, found]
    | some batch =>
      cases stopped : l.cancelled <;> simp [step, begin, capped, found, stopped, settle]
  | complete id result =>
    cases found : l.running.find? (·.id == id) with
    | none => simp [step, complete, capped, found]
    | some batch => simp [step, complete, capped, found, settle]
  | abort id =>
    cases found : l.running.find? (·.id == id) with
    | none => simp [step, abort, capped, found]
    | some batch =>
      cases stopped : l.cancelled <;> simp [step, abort, capped, found, stopped, settle]
  | publish id =>
    cases found : l.settling.find? (·.1.id == id) with
    | none => simp [step, publish, capped, found]
    | some pair => simp [step, publish, capped, found]
  | cancel => rfl

theorem capped_run (l : Loader κ ν) (events : List (Event κ ν)) :
    (l.run events).capped = l.capped.run events := by
  induction events generalizing l with
  | nil => rfl
  | cons e rest ih =>
    have tail := ih (l.step e)
    rw [capped_step] at tail
    exact tail

theorem turn_capped (l : Loader κ ν) (e : Event κ ν) :
    Turn l.capped e (l.closedBy e) (l.answeredBy e) (l.step e).capped := by
  have turn := turn_of_step l.capped e
  have closes : l.capped.closedBy e = l.closedBy e := by
    rw [closedBy, ← capped_step]
    rfl
  have brings : l.capped.answeredBy e = l.answeredBy e := by cases e <;> rfl
  rw [closes, brings, ← capped_step] at turn
  exact turn

theorem closedBatches_capped (l : Loader κ ν) (events : List (Event κ ν)) :
    l.capped.closedBatches events = l.closedBatches events := by
  induction events generalizing l with
  | nil => rfl
  | cons e rest ih =>
    rw [closedBatches, closedBatches, closedBy, ← capped_step, ih (l.step e)]
    rfl

theorem answers_capped (l : Loader κ ν) (events : List (Event κ ν)) :
    l.capped.answers events = l.answers events := by
  induction events generalizing l with
  | nil => rfl
  | cons e rest ih =>
    have first : l.capped.answeredBy e = l.answeredBy e := by cases e <;> rfl
    rw [answers, answers, first, ← capped_step, ih (l.step e)]

/-- Every reachable loader is consistent, once it has room for a key. -/
theorem consistent_capped (capacity : Nat) (events : List (Event κ ν)) :
    ((empty capacity : Loader κ ν).run events).capped.Consistent
      ((empty capacity : Loader κ ν).closedBatches events)
      ((empty capacity : Loader κ ν).answers events) := by
  rw [capped_run, ← closedBatches_capped, ← answers_capped]
  exact consistent_of_run (max capacity 1) (Nat.le_max_right _ _) events

end Loader

end Transit
