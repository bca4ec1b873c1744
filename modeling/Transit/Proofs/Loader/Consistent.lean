import Transit.Proofs.Loader.Answers
set_option autoImplicit false

/-!
# Consistent loaders

A loader is `Consistent` with the batches that were closed and the answers that were given on the
way to it when its stages, its cache, its outcomes and its calls all agree with them. Runs keep
loaders consistent, so every reachable loader is (`consistent_of_run`), which bounds its batches and
keeps them apart (`reachable_batches_sound`).
-/

namespace Transit

namespace Loader

variable {κ ν : Type}

structure Called (l : Loader κ ν) (closed : List (Batch κ)) : Prop where
  wasClosed : ∀ batch ∈ l.calls, batch ∈ closed
  once : (l.calls.map (·.id)).Nodup
  left : ∀ batch ∈ l.calls, ∀ other ∈ l.waiting, batch.id ≠ other.id

namespace Called

variable {l : Loader κ ν} {closed : List (Batch κ)}

/-- Turns that call nothing and close nothing. -/
theorem of_subset (called : l.Called closed) {next : Loader κ ν} (calls : next.calls = l.calls)
    (fewer : next.waiting ⊆ l.waiting) : next.Called closed where
  wasClosed := by
    rw [calls]
    exact called.wasClosed
  once := by
    rw [calls]
    exact called.once
  left := by
    intro batch member other waits
    rw [calls] at member
    exact called.left batch member other (fewer waits)

theorem close (called : l.Called closed) (staged : l.Staged closed) {batch : Batch κ}
    (isOpen : l.openBatch = some batch) : (l.close batch).Called (closed ++ [batch]) where
  wasClosed := by
    intro other member
    exact List.mem_append_left _ (called.wasClosed other member)
  once := called.once
  left := by
    intro caller member other waits
    rcases List.mem_append.mp waits with old | new
    · exact called.left caller member other old
    · obtain rfl : other = batch := by simpa using new
      exact (staged.open_ne_closed isOpen (called.wasClosed caller member)).symm

theorem call (called : l.Called closed) (staged : l.Staged closed) {batch : Batch κ}
    (due : batch ∈ l.waiting) :
    Loader.Called { l.unqueue batch.id with
      running := l.running ++ [batch], calls := l.calls ++ [batch] } closed where
  wasClosed := by
    intro other member
    rcases List.mem_append.mp member with old | new
    · exact called.wasClosed other old
    · obtain rfl : other = batch := by simpa using new
      exact staged.wasClosed other (by simp [due])
  once := by
    rw [List.map_append, List.nodup_append]
    refine ⟨called.once, by simp, ?_⟩
    intro id member other new same
    obtain ⟨caller, inCalls, rfl⟩ := List.mem_map.mp member
    obtain rfl : other = batch.id := by simpa using new
    exact called.left caller inCalls batch due same
  left := by
    intro caller member other waits
    simp only [unqueue, List.mem_filter, bne_iff_ne] at waits
    rcases List.mem_append.mp member with old | new
    · exact called.left caller old other waits.1
    · obtain rfl : caller = batch := by simpa using new
      exact waits.2.symm

/-- Every turn calls the fetcher for closed batches only, and once for each. -/
theorem turn [DecidableEq κ] [Inhabited ν] (called : l.Called closed) (staged : l.Staged closed)
    (room : l.HasRoom) {e : Event κ ν} {shut : List (Batch κ)}
    {given : List (Batch κ × BatchAnswer ν)} {next : Loader κ ν} (turn : Turn l e shut given next) :
    next.Called (closed ++ shut) := by
  have fewer : ∀ id, l.waiting.filter (·.id != id) ⊆ l.waiting := fun _ => List.filter_subset_self _
  cases turn with
  | rest e => simpa using called
  | enter key active unknown fits =>
    rw [List.append_nil]
    exact called.of_subset rfl fun _ member => member
  | fill key active unknown full =>
    have entered : (l.entered key).Called closed := called.of_subset rfl fun _ member => member
    exact entered.close (staged.enter key (staged.currentBatch_room room)) rfl
  | expire batch isOpen => exact called.close staged isOpen
  | skip batch due stopped =>
    rw [List.append_nil]
    exact called.of_subset rfl (fewer batch.id)
  | call batch due active =>
    rw [List.append_nil]
    exact called.call staged due
  | answer batch result isRunning =>
    rw [List.append_nil]
    exact called.of_subset rfl fun _ member => member
  | giveUp batch isRunning stopped =>
    rw [List.append_nil]
    exact called.of_subset rfl fun _ member => member
  | publish batch outcome ended =>
    rw [List.append_nil]
    exact called.of_subset rfl fun _ member => member
  | cancel =>
    rw [List.append_nil]
    exact called.of_subset rfl fun _ member => member

end Called

structure Consistent [DecidableEq κ] [Inhabited ν] (l : Loader κ ν) (closed : List (Batch κ))
    (given : List (Batch κ × BatchAnswer ν)) : Prop where
  staged : l.Staged closed
  room : l.HasRoom
  cached : l.Cached closed
  answered : l.Answered closed given
  called : l.Called closed

section
variable [DecidableEq κ] [Inhabited ν]

theorem consistent_empty (capacity : Nat) (positive : 0 < capacity) :
    (empty capacity : Loader κ ν).Consistent [] [] where
  staged :=
    ⟨positive, by simp [batches, empty], by simp [batches, empty], by simp [batches, empty],
      by simp [stageIds, outcomes, empty], by simp [empty]⟩
  room := by simp [HasRoom, empty]
  cached := ⟨by simp [unsettled, empty], by simp [empty], by simp [batches, empty]⟩
  answered := ⟨by simp [outcomes, empty], by simp, by simp, by simp⟩
  called := ⟨by simp [empty], by simp [empty], by simp [empty]⟩

namespace Consistent

variable {l : Loader κ ν} {closed : List (Batch κ)} {given : List (Batch κ × BatchAnswer ν)}

/-- Every turn keeps a loader consistent with what has happened to it. -/
theorem turn (consistent : l.Consistent closed given) {e : Event κ ν} {shut : List (Batch κ)}
    {new : List (Batch κ × BatchAnswer ν)} {next : Loader κ ν} (turn : Turn l e shut new next) :
    next.Consistent (closed ++ shut) (given ++ new) := by
  have staged := consistent.staged.turn consistent.room turn
  exact ⟨staged.1, staged.2, consistent.cached.turn consistent.staged turn,
    consistent.answered.turn consistent.staged turn,
    consistent.called.turn consistent.staged consistent.room turn⟩

theorem run (consistent : l.Consistent closed given) (events : List (Event κ ν)) :
    (l.run events).Consistent (closed ++ l.closedBatches events) (given ++ l.answers events) :=
  run_induction (fun l e _ _ holds => holds.turn (turn_of_step l e)) l events closed given
    consistent

/-- Unsettled batches are told apart by their ids. -/
theorem unsettled_nodup (consistent : l.Consistent closed given) :
    (l.unsettled.map (·.id)).Nodup := by
  have staged := consistent.staged
  have closedOnes := (List.nodup_append.mp staged.stage_nodup).1
  rw [unsettled, List.append_assoc, List.map_append, List.map_append, List.nodup_append]
  refine ⟨by cases l.openBatch <;> simp, closedOnes, ?_⟩
  intro id isOpen other member same
  obtain ⟨batch, inOpen, rfl⟩ := List.mem_map.mp isOpen
  rw [← List.map_append] at member
  obtain ⟨closedOne, inClosed, rfl⟩ := List.mem_map.mp member
  have wasClosed := staged.wasClosed closedOne (List.mem_append_left _ inClosed)
  exact staged.open_ne_closed (by simpa using inOpen) wasClosed same

theorem unsettled_batches (consistent : l.Consistent closed given) {batch : Batch κ}
    (member : batch ∈ l.unsettled) : batch ∈ l.batches closed := by
  simp only [unsettled, List.append_assoc, List.mem_append] at member
  rcases member with isOpen | closedOne
  · exact List.mem_append_right _ isOpen
  · have wasClosed := consistent.staged.wasClosed batch (by
      simp only [List.mem_append]
      tauto)
    exact List.mem_append_left _ wasClosed

/-- The unsettled batches are those without an outcome. -/
theorem mem_unsettled_iff (consistent : l.Consistent closed given) (batch : Batch κ) :
    batch ∈ l.unsettled ↔ batch ∈ l.batches closed ∧ batch.id ∉ l.outcomes.map (·.1) := by
  have staged := consistent.staged
  constructor
  · intro member
    refine ⟨consistent.unsettled_batches member, ?_⟩
    intro ended
    simp only [unsettled, List.append_assoc, List.mem_append] at member
    rcases member with isOpen | closedOne
    · have wasClosed := staged.stage.subset (List.mem_append_right _ ended)
      obtain ⟨other, inClosed, same⟩ := List.mem_map.mp wasClosed
      exact staged.open_ne_closed (by simpa using isOpen) inClosed same.symm
    · have apart := (List.nodup_append.mp staged.stage_nodup).2.2
      refine apart batch.id ?_ batch.id ended rfl
      rw [← List.map_append]
      exact List.mem_map_of_mem (List.mem_append.mpr closedOne)
  · rintro ⟨member, pending⟩
    rcases List.mem_append.mp member with wasClosed | isOpen
    · have inStage := staged.stage.symm.subset (List.mem_map_of_mem wasClosed)
      rcases List.mem_append.mp inStage with closedOne | ended
      · rw [← List.map_append] at closedOne
        obtain ⟨other, inStages, same⟩ := List.mem_map.mp closedOne
        have otherClosed := staged.wasClosed other (List.mem_append_left _ inStages)
        obtain rfl := staged.eq_of_id_eq (List.mem_append_left _ otherClosed) member same
        rw [unsettled, List.append_assoc]
        exact List.mem_append_right _ inStages
      · exact absurd ended pending
    · rw [unsettled, List.append_assoc]
      exact List.mem_append_left _ isOpen

/-- No key is in two unsettled batches: the cache has only one slot for it. -/
theorem unsettled_keys_nodup (consistent : l.Consistent closed given) :
    (l.unsettled.flatMap (·.keys)).Nodup := by
  rw [List.nodup_flatMap]
  refine ⟨?_, ?_⟩
  · intro batch member
    exact consistent.cached.distinctKeys batch (consistent.unsettled_batches member)
  · have apart := List.pairwise_map.mp consistent.unsettled_nodup
    refine apart.imp_of_mem ?_
    intro first second inFirst inSecond differ key keyFirst keySecond
    obtain ⟨i, foundFirst⟩ := List.getElem?_of_mem keyFirst
    obtain ⟨j, foundSecond⟩ := List.getElem?_of_mem keySecond
    have slotFirst := consistent.cached.found first inFirst i key foundFirst
    have slotSecond := consistent.cached.found second inSecond j key foundSecond
    rw [slotFirst, Option.some.injEq, Slot.mk.injEq] at slotSecond
    exact differ slotSecond.1

end Consistent

theorem consistent_of_run (capacity : Nat) (positive : 0 < capacity) (events : List (Event κ ν)) :
    ((empty capacity : Loader κ ν).run events).Consistent
      ((empty capacity : Loader κ ν).closedBatches events)
      ((empty capacity : Loader κ ν).answers events) := by
  simpa using (consistent_empty capacity positive).run events

/-- However submits, timers, tasks, answers and cancellation interleave: the open batch has room,
the cache knows where each unsettled key is, unsettled batches share no key, and no batch is closed
or handed to the fetcher twice or grows beyond the capacity. -/
theorem reachable_batches_sound (capacity : Nat) (positive : 1 ≤ capacity)
    (events : List (Event κ ν)) :
    let start : Loader κ ν := empty capacity
    let l := start.run events
    let dispatched := start.closedBatches events
    (∀ batch, l.openBatch = some batch →
      1 ≤ batch.keys.length ∧ batch.keys.length < capacity ∧ batch.keys.Nodup) ∧
    (∀ batch, batch ∈ l.unsettled ↔
      (batch ∈ dispatched ∨ l.openBatch = some batch) ∧ batch.id ∉ l.outcomes.map (·.1)) ∧
    (∀ batch ∈ l.unsettled, ∀ index key, batch.keys[index]? = some key →
      l.cache.lookup key = some ⟨batch.id, index⟩) ∧
    (l.unsettled.flatMap (·.keys)).Nodup ∧
    (dispatched.map (·.id)).Nodup ∧
    (∀ batch ∈ dispatched, batch.keys.length ≤ capacity) ∧
    (∀ batch ∈ l.calls, batch ∈ dispatched) ∧
    (l.calls.map (·.id)).Nodup := by
  intro start l dispatched
  have consistent : l.Consistent dispatched (start.answers events) :=
    consistent_of_run capacity positive events
  have bound : l.capacity = capacity := capacity_run start events
  have staged := consistent.staged
  refine ⟨?_, ?_, consistent.cached.found, consistent.unsettled_keys_nodup, ?_, ?_,
    consistent.called.wasClosed, consistent.called.once⟩
  · intro batch isOpen
    have member : batch ∈ l.batches dispatched := by simp [batches, isOpen]
    have room := consistent.room batch isOpen
    rw [bound] at room
    exact ⟨(staged.sized batch member).1, room, consistent.cached.distinctKeys batch member⟩
  · intro batch
    have iff := consistent.mem_unsettled_iff batch
    simpa only [batches, List.mem_append, Option.mem_toList] using iff
  · have all := staged.distinct
    rw [batches, List.map_append] at all
    exact (List.nodup_append.mp all).1
  · intro batch member
    rw [← bound]
    exact (staged.sized batch (List.mem_append_left _ member)).2

/-- Key 2 fills the first batch before its wait is over; the wait ends once more for nothing. -/
theorem reachable_batches_sound_of_race :
    let events : List (Event Nat Nat) :=
      [.submit 1, .submit 2, .expire 0, .submit 3, .expire 0, .begin 0,
        .complete 0 (.ok [.error (.backend ""), .ok 20]), .submit 1]
    let l := (empty 2 : Loader Nat Nat).run events
    let dispatched := (empty 2 : Loader Nat Nat).closedBatches events
    1 ≤ 2 ∧ l.unsettled = [⟨1, [3, 1]⟩] ∧ dispatched = [⟨0, [1, 2]⟩, ⟨1, [3, 1]⟩] ∧
      l.cache.lookup 1 = some ⟨1, 1⟩ ∧ (dispatched.map (·.id)).Nodup ∧
      ∀ batch ∈ dispatched, batch.keys.length ≤ 2 := by
  intro events l dispatched
  have sound := reachable_batches_sound 2 (by decide) events
  obtain ⟨_, _, found, _, once, bounded, _, _⟩ := sound
  have unsettled : l.unsettled = [⟨1, [3, 1]⟩] := by decide
  refine ⟨by decide, unsettled, by decide, ?_, once, bounded⟩
  exact found ⟨1, [3, 1]⟩ (unsettled ▸ List.mem_singleton_self _) 1 1 rfl

end

end Loader

end Transit
