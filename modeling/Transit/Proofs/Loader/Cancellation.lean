import Transit.Proofs.Loader.Retention
import Transit.Proofs.Loader.Submission
set_option autoImplicit false

/-!
# Cancellation of a loader

The signal may come between any two turns. `cancellation_safe` says what it does: nothing is fetched
any more, loads are refused, those who wait get cancellation or what a fetch that had begun brings
for their key, and no cancelled key stays in the cache.
-/

namespace Transit

namespace Loader

variable {κ ν : Type} [Inhabited ν]

/-- After cancellation there is something to see in every slot. -/
theorem peek_of_cancelled {l : Loader κ ν} (stopped : l.cancelled = true) (slot : Slot) :
    ∃ seen, l.peek slot = some seen := by
  cases settled : l.settled.lookup slot.batch with
  | some outcome => exact ⟨outcome.entry slot.index, by simp [peek, settled]⟩
  | none => exact ⟨.error .cancelled, by simp [peek, settled, stopped]⟩

variable [DecidableEq κ]

theorem calls_turn {l next : Loader κ ν} {e : Event κ ν} {closed : List (Batch κ)}
    {given : List (Batch κ × BatchAnswer ν)} (turn : Turn l e closed given next)
    (stopped : l.cancelled = true) : next.calls = l.calls := by
  cases turn with
  | call batch due active =>
    rw [stopped] at active
    contradiction
  | _ => rfl

/-- Nothing is fetched after cancellation. -/
theorem calls_run {l : Loader κ ν} (stopped : l.cancelled = true) (events : List (Event κ ν)) :
    (l.run events).calls = l.calls := by
  induction events generalizing l with
  | nil => rfl
  | cons e rest ih =>
    have first := calls_turn (turn_of_step l e) stopped
    have stays : (l.step e).cancelled = true := cancelled_run stopped [e]
    exact (ih stays).trans first

/-- Whenever the signal comes: no call begins after it; every load after it is refused, also of a
key that is known; every load before it gets cancellation or what the one answer to a call that had
begun before it holds for the key; and the keys of cancelled batches are not cached, nor is anything
else under these batches. -/
theorem cancellation_safe (capacity : Nat) (before after : List (Event κ ν)) :
    let start : Loader κ ν := empty capacity
    let fired := start.run before
    let events := before ++ .cancel :: after
    let l := start.run events
    l.calls = fired.calls ∧
    (∀ key, l.submit key = (.error .cancelled, l)) ∧
    (∀ earlier key rest slot, before = earlier ++ .submit key :: rest →
      ((start.run earlier).submit key).1 = .ok slot →
      ∃ seen, l.peek slot = some seen ∧
        (seen = .error .cancelled ∨
          ∃ batch answer, batch ∈ fired.calls ∧ (batch, answer) ∈ start.answers events ∧
            (∀ other ∈ start.answers events, other.1.id = slot.batch → other = (batch, answer)) ∧
            batch.id = slot.batch ∧ batch.keys[slot.index]? = some key ∧
            Holds batch answer slot.index seen)) ∧
    (∀ batch ∈ start.closedBatches events, (batch.id, Outcome.cancelled) ∈ l.outcomes →
      ∀ key ∈ batch.keys, l.cache.lookup key = none) ∧
    (∀ key slot, l.cache.lookup key = some slot → (slot.batch, Outcome.cancelled) ∉ l.outcomes) := by
  intro start fired events l
  have reached : l.Reached (start.closedBatches events) (start.answers events) :=
    reached_of_run capacity events
  have follows : l = fired.cancel.run after := run_append start before (.cancel :: after)
  have latched : fired.cancel.cancelled = true := rfl
  have stopped : l.cancelled = true := follows ▸ cancelled_run latched after
  have calls : l.calls = fired.calls := follows ▸ calls_run latched after
  refine ⟨calls, ?_, ?_, ?_, ?_⟩
  · intro key
    simp [submit, stopped]
  · intro earlier key rest slot splits handed
    obtain ⟨seen, peeked⟩ := peek_of_cancelled stopped slot
    refine ⟨seen, peeked, ?_⟩
    have whole : events = earlier ++ .submit key :: (rest ++ .cancel :: after) := by
      simp [events, splits]
    have carries := carries_of_load capacity earlier handed (rest ++ .cancel :: after)
    rw [← whole] at carries
    rcases reached.consistent.holds_of_peek carries peeked with ⟨isCancelled, _⟩ | origin
    · exact .inl isCancelled
    · obtain ⟨batch, answer, inGiven, id, _, carried, holds⟩ := origin
      have began : batch ∈ l.calls := reached.fetched.answered batch answer inGiven
      rw [calls] at began
      refine .inr ⟨batch, answer, began, inGiven, ?_, id, carried, holds⟩
      intro other member same
      have once := reached.consistent.answered.once
      exact List.inj_on_of_nodup_map once member inGiven (same.trans id.symm)
  · intro batch dispatched ended key inKeys
    exact reached.retained.cleared batch (List.mem_append_left _ dispatched) ended key inKeys
  · intro key slot found ended
    have fine := reached.retained.dropped key slot (mem_of_lookup found) .cancelled ended
    simp [Outcome.isFailure] at fine

/-- The signal comes while a batch of two keys is fetched and a third key waits for company. -/
theorem cancellation_safe_of_two_batches :
    let before : List (Event Nat Nat) := [.submit 1, .submit 2, .begin 0, .submit 3]
    let after : List (Event Nat Nat) := [.complete 0 (.ok [.ok 10, .error (.backend "down")]),
      .publish 0, .expire 1, .begin 1, .publish 1]
    let fired := (empty 2 : Loader Nat Nat).run before
    let l := (empty 2 : Loader Nat Nat).run (before ++ .cancel :: after)
    l.calls = fired.calls ∧ l.submit 1 = (.error .cancelled, l) ∧
    l.peek ⟨0, 0⟩ = some (.ok 10) ∧
    (∃ batch answer, batch ∈ fired.calls ∧ batch.keys[0]? = some 1 ∧
      Holds batch answer 0 (.ok 10)) ∧
    l.cache.lookup 3 = none ∧ l.cache.lookup 1 = some ⟨0, 0⟩ ∧
    (0, Outcome.cancelled) ∉ l.outcomes := by
  intro before after fired l
  obtain ⟨calls, refused, pending, cleared, dropped⟩ := cancellation_safe 2 before after
  have known : l.cache.lookup 1 = some ⟨0, 0⟩ := rfl
  have value : l.peek ⟨0, 0⟩ = some (.ok 10) := rfl
  obtain ⟨seen, peeked, origin⟩ := pending [] 1 [.submit 2, .begin 0, .submit 3] ⟨0, 0⟩ rfl rfl
  obtain rfl : .ok 10 = seen := Option.some.inj (value.symm.trans peeked)
  refine ⟨calls, refused 1, value, ?_, ?_, known, dropped 1 ⟨0, 0⟩ known⟩
  · rcases origin with isCancelled | ⟨batch, answer, began, _, _, _, carried, holds⟩
    · cases isCancelled
    · exact ⟨batch, answer, began, carried, holds⟩
  · exact cleared ⟨1, [3]⟩ (.tail _ (.head _)) (.head _) 3 (.head _)

end Loader

end Transit
