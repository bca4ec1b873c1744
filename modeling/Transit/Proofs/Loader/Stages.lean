import Mathlib.Data.List.Nodup
import Transit.Proofs.Loader.Turn
set_option autoImplicit false

/-!
# The stages of a batch

A batch is open first, and once it is closed it is in exactly one of four stages: it waits for its
task, runs at the fetcher, settles, or is settled. `Staged` states this of a loader and the batches
that were closed on the way to it, together with the bounds on their sizes; every turn keeps it.
-/

namespace Transit

/-- Taking out the one member with a number takes out that number. -/
theorem perm_cons_filter_ne {α : Type} (number : α → Nat) {xs : List α} {x : α} (member : x ∈ xs)
    (distinct : (xs.map number).Nodup) :
    (xs.map number).Perm (number x :: (xs.filter fun y => number y != number x).map number) := by
  have erased := List.perm_cons_erase (List.mem_map.mpr ⟨x, member, rfl⟩ : number x ∈ xs.map number)
  rw [distinct.erase_eq_filter, List.filter_map] at erased
  exact erased

namespace Loader

variable {κ ν : Type}

/-- All batches so far: those that have been closed, and the open one. -/
def batches (l : Loader κ ν) (closed : List (Batch κ)) : List (Batch κ) :=
  closed ++ l.openBatch.toList

/-- The batches whose end is known, with how they ended. -/
def outcomes (l : Loader κ ν) : List (Nat × Outcome ν) :=
  l.settling.map (fun p => (p.1.id, p.2)) ++ l.settled

/-- The ids of closed batches, stage by stage. -/
def stageIds (l : Loader κ ν) : List Nat :=
  l.waiting.map (·.id) ++ l.running.map (·.id) ++ l.outcomes.map (·.1)

structure Staged (l : Loader κ ν) (closed : List (Batch κ)) : Prop where
  positive : 0 < l.capacity
  sized : ∀ batch ∈ l.batches closed, 0 < batch.keys.length ∧ batch.keys.length ≤ l.capacity
  fresh : ∀ batch ∈ l.batches closed, batch.id < l.nextId
  distinct : ((l.batches closed).map (·.id)).Nodup
  stage : l.stageIds.Perm (closed.map (·.id))
  wasClosed : ∀ batch ∈ l.waiting ++ l.running ++ l.settling.map (·.1), batch ∈ closed

def HasRoom (l : Loader κ ν) : Prop :=
  ∀ batch, l.openBatch = some batch → batch.keys.length < l.capacity

namespace Staged

variable {l : Loader κ ν} {closed : List (Batch κ)}

theorem stage_nodup (staged : l.Staged closed) : l.stageIds.Nodup := by
  have all := staged.distinct
  rw [batches, List.map_append] at all
  exact staged.stage.nodup_iff.mpr (List.nodup_append.mp all).1

theorem waiting_nodup (staged : l.Staged closed) : (l.waiting.map (·.id)).Nodup :=
  (List.nodup_append.mp (List.nodup_append.mp staged.stage_nodup).1).1

theorem running_nodup (staged : l.Staged closed) : (l.running.map (·.id)).Nodup :=
  (List.nodup_append.mp (List.nodup_append.mp staged.stage_nodup).1).2.1

theorem settling_nodup (staged : l.Staged closed) : (l.settling.map (·.1.id)).Nodup := by
  have ended := (List.nodup_append.mp staged.stage_nodup).2.1
  rw [outcomes, List.map_append, List.map_map] at ended
  exact (List.nodup_append.mp ended).1

theorem eq_of_id_eq (staged : l.Staged closed) {first second : Batch κ}
    (memFirst : first ∈ l.batches closed) (memSecond : second ∈ l.batches closed)
    (same : first.id = second.id) : first = second :=
  List.inj_on_of_nodup_map staged.distinct memFirst memSecond same

theorem currentBatch_room (staged : l.Staged closed) (room : l.HasRoom) :
    l.currentBatch.keys.length < l.capacity := by
  cases isOpen : l.openBatch with
  | none => simpa [currentBatch, isOpen] using staged.positive
  | some batch => simpa [currentBatch, isOpen] using room batch isOpen

theorem open_ne_closed (staged : l.Staged closed) {batch other : Batch κ}
    (isOpen : l.openBatch = some batch) (wasClosed : other ∈ closed) : batch.id ≠ other.id := by
  have all := staged.distinct
  rw [batches, isOpen, List.map_append, List.nodup_append] at all
  intro same
  exact all.2.2 other.id (List.mem_map_of_mem wasClosed) batch.id (by simp) same.symm

theorem waiting_ne_running (staged : l.Staged closed) {batch other : Batch κ}
    (waits : batch ∈ l.waiting) (runs : other ∈ l.running) : batch.id ≠ other.id := by
  have apart := (List.nodup_append.mp (List.nodup_append.mp staged.stage_nodup).1).2.2
  exact apart batch.id (List.mem_map_of_mem waits) other.id (List.mem_map_of_mem runs)

theorem unsettled_unqueue (staged : l.Staged closed) {batch other : Batch κ}
    (due : batch ∈ l.waiting) (member : other ∈ (l.unqueue batch.id).unsettled) :
    other ∈ l.unsettled ∧ other.id ≠ batch.id := by
  have wasClosed := staged.wasClosed batch (by simp [due])
  simp only [unsettled, unqueue, List.mem_append, List.mem_filter, bne_iff_ne] at member ⊢
  rcases member with (isOpen | ⟨waits, differs⟩) | runs
  · exact ⟨.inl (.inl isOpen), staged.open_ne_closed (by simpa using isOpen) wasClosed⟩
  · exact ⟨.inl (.inr waits), differs⟩
  · exact ⟨.inr runs, (staged.waiting_ne_running due runs).symm⟩

theorem unsettled_uncall (staged : l.Staged closed) {batch other : Batch κ}
    (called : batch ∈ l.running) (member : other ∈ (l.uncall batch.id).unsettled) :
    other ∈ l.unsettled ∧ other.id ≠ batch.id := by
  have wasClosed := staged.wasClosed batch (by simp [called])
  simp only [unsettled, uncall, List.mem_append, List.mem_filter, bne_iff_ne] at member ⊢
  rcases member with (isOpen | waits) | ⟨runs, differs⟩
  · exact ⟨.inl (.inl isOpen), staged.open_ne_closed (by simpa using isOpen) wasClosed⟩
  · exact ⟨.inl (.inr waits), staged.waiting_ne_running waits called⟩
  · exact ⟨.inr runs, differs⟩

/-! ## What the turns keep -/

theorem enter (staged : l.Staged closed) (key : κ)
    (fits : l.currentBatch.keys.length + 1 ≤ l.capacity) : (l.entered key).Staged closed where
  positive := staged.positive
  sized := by
    intro batch member
    rcases List.mem_append.mp member with old | new
    · exact staged.sized batch (List.mem_append_left _ old)
    · obtain rfl : batch = l.grown key := by simpa [entered] using new
      simpa [grown, entered] using fits
  fresh := by
    intro batch member
    have grows : l.nextId ≤ (l.entered key).nextId := by simp only [entered]; split <;> omega
    rcases List.mem_append.mp member with old | new
    · exact Nat.lt_of_lt_of_le (staged.fresh batch (List.mem_append_left _ old)) grows
    · obtain rfl : batch = l.grown key := by simpa [entered] using new
      cases isOpen : l.openBatch with
      | none => simp [grown, currentBatch, entered, isOpen]
      | some current =>
        have known : current ∈ l.batches closed := by simp [batches, isOpen]
        simpa [grown, currentBatch, entered, isOpen] using staged.fresh current known
  distinct := by
    have all := staged.distinct
    cases isOpen : l.openBatch with
    | none =>
      have older : ∀ batch ∈ closed, batch.id ≠ l.nextId := by
        intro batch member
        exact Nat.ne_of_lt (staged.fresh batch (List.mem_append_left _ member))
      simp only [batches, isOpen, Option.toList_none, List.append_nil] at all
      simpa [batches, entered, grown, currentBatch, isOpen, List.nodup_append, all] using older
    | some current => simpa [batches, entered, grown, currentBatch, isOpen] using all
  stage := staged.stage
  wasClosed := staged.wasClosed

theorem close (staged : l.Staged closed) {batch : Batch κ} (isOpen : l.openBatch = some batch) :
    (l.close batch).Staged (closed ++ [batch]) := by
  have same : (l.close batch).batches (closed ++ [batch]) = l.batches closed := by
    simp [batches, Loader.close, isOpen]
  refine ⟨staged.positive, ?_, ?_, ?_, ?_, ?_⟩
  · rw [same]
    exact staged.sized
  · rw [same]
    exact staged.fresh
  · rw [same]
    exact staged.distinct
  · have moved : (l.close batch).stageIds.Perm (l.stageIds ++ [batch.id]) := by
      rw [List.perm_iff_count]
      intro id
      simp only [stageIds, outcomes, Loader.close, List.map_append, List.count_append,
        List.map_cons, List.map_nil]
      omega
    simpa using moved.trans (staged.stage.append_right [batch.id])
  · intro other member
    simp only [Loader.close, List.mem_append, List.mem_singleton] at member
    have old := staged.wasClosed other
    simp only [List.mem_append] at old
    rcases member with ((waits | new) | runs) | ends
    · exact List.mem_append_left _ (old (.inl (.inl waits)))
    · exact List.mem_append_right _ (by simpa using new)
    · exact List.mem_append_left _ (old (.inl (.inr runs)))
    · exact List.mem_append_left _ (old (.inr ends))

/-- A turn that only moves a closed batch from one stage to another keeps all of this. -/
theorem move (staged : l.Staged closed) {next : Loader κ ν}
    (capacity : next.capacity = l.capacity) (isOpen : next.openBatch = l.openBatch)
    (nextId : next.nextId = l.nextId) (stage : next.stageIds.Perm l.stageIds)
    (known : next.waiting ++ next.running ++ next.settling.map (·.1) ⊆
      l.waiting ++ l.running ++ l.settling.map (·.1)) : next.Staged closed := by
  have same : next.batches closed = l.batches closed := by rw [batches, isOpen, batches]
  refine ⟨?_, ?_, ?_, ?_, stage.trans staged.stage, ?_⟩
  · rw [capacity]
    exact staged.positive
  · rw [same, capacity]
    exact staged.sized
  · rw [same, nextId]
    exact staged.fresh
  · rw [same]
    exact staged.distinct
  · intro batch member
    exact staged.wasClosed batch (known member)

theorem settle_waiting (staged : l.Staged closed) [DecidableEq κ] {batch : Batch κ}
    (due : batch ∈ l.waiting) (outcome : Outcome ν) :
    ((l.unqueue batch.id).settle batch outcome).Staged closed := by
  have taken := perm_cons_filter_ne (·.id) due staged.waiting_nodup
  refine staged.move rfl rfl rfl ?_ ?_
  · rw [List.perm_iff_count] at taken ⊢
    intro id
    have counted := taken id
    simp only [stageIds, outcomes, Loader.settle, unqueue, List.map_append, List.map_cons,
      List.map_nil, List.count_append, List.count_cons, List.count_nil] at counted ⊢
    omega
  · intro other member
    simp only [Loader.settle, unqueue, List.map_append, List.map_cons, List.map_nil,
      List.mem_append, List.mem_filter, List.mem_singleton] at member ⊢
    rcases member with (⟨waits, _⟩ | runs) | ends | rfl
    · exact .inl (.inl waits)
    · exact .inl (.inr runs)
    · exact .inr ends
    · exact .inl (.inl due)

theorem settle_running (staged : l.Staged closed) [DecidableEq κ] {batch : Batch κ}
    (called : batch ∈ l.running) (outcome : Outcome ν) :
    ((l.uncall batch.id).settle batch outcome).Staged closed := by
  have taken := perm_cons_filter_ne (·.id) called staged.running_nodup
  refine staged.move rfl rfl rfl ?_ ?_
  · rw [List.perm_iff_count] at taken ⊢
    intro id
    have counted := taken id
    simp only [stageIds, outcomes, Loader.settle, uncall, List.map_append, List.map_cons,
      List.map_nil, List.count_append, List.count_cons, List.count_nil] at counted ⊢
    omega
  · intro other member
    simp only [Loader.settle, uncall, List.map_append, List.map_cons, List.map_nil,
      List.mem_append, List.mem_filter, List.mem_singleton] at member ⊢
    rcases member with (waits | ⟨runs, _⟩) | ends | rfl
    · exact .inl (.inl waits)
    · exact .inl (.inr runs)
    · exact .inr ends
    · exact .inl (.inr called)

theorem call (staged : l.Staged closed) {batch : Batch κ} (due : batch ∈ l.waiting) :
    Loader.Staged { l.unqueue batch.id with
      running := l.running ++ [batch], calls := l.calls ++ [batch] } closed := by
  have taken := perm_cons_filter_ne (·.id) due staged.waiting_nodup
  refine staged.move rfl rfl rfl ?_ ?_
  · rw [List.perm_iff_count] at taken ⊢
    intro id
    have counted := taken id
    simp only [stageIds, outcomes, unqueue, List.map_append, List.map_cons, List.map_nil,
      List.count_append, List.count_cons, List.count_nil] at counted ⊢
    omega
  · intro other member
    simp only [unqueue, List.mem_append, List.mem_filter, List.mem_singleton] at member ⊢
    rcases member with (⟨waits, _⟩ | runs | rfl) | ends
    · exact .inl (.inl waits)
    · exact .inl (.inr runs)
    · exact .inl (.inl due)
    · exact .inr ends

theorem publish (staged : l.Staged closed) {batch : Batch κ} {outcome : Outcome ν}
    (ended : (batch, outcome) ∈ l.settling) :
    Loader.Staged { l with
      settling := l.settling.filter (·.1.id != batch.id)
      settled := (batch.id, outcome) :: l.settled } closed := by
  have taken := perm_cons_filter_ne (fun p : Batch κ × Outcome ν => p.1.id) ended
    staged.settling_nodup
  refine staged.move rfl rfl rfl ?_ ?_
  · rw [List.perm_iff_count] at taken ⊢
    intro id
    have counted := taken id
    simp only [stageIds, outcomes, List.map_append, List.map_cons, List.map_map, Function.comp_def,
      List.count_append, List.count_cons] at counted ⊢
    omega
  · intro other member
    simp only [List.mem_append, List.mem_map, List.mem_filter] at member ⊢
    rcases member with older | ⟨pair, ⟨ends, _⟩, rfl⟩
    · exact .inl older
    · exact .inr ⟨pair, ends, rfl⟩

/-- Every turn keeps closed batches in their stages and leaves room in the open one. -/
theorem turn [DecidableEq κ] [Inhabited ν] (staged : l.Staged closed) (room : l.HasRoom)
    {e : Event κ ν} {shut : List (Batch κ)} {given : List (Batch κ × BatchAnswer ν)}
    {next : Loader κ ν} (turn : Turn l e shut given next) :
    next.Staged (closed ++ shut) ∧ next.HasRoom := by
  cases turn with
  | rest e => exact ⟨by simpa using staged, room⟩
  | enter key active unknown fits =>
    refine ⟨by simpa using staged.enter key (Nat.le_of_lt fits), ?_⟩
    intro batch isOpen
    obtain rfl : l.grown key = batch := by simpa [entered] using isOpen
    simpa [grown, entered] using fits
  | fill key active unknown full =>
    have fits := Nat.succ_le_of_lt (staged.currentBatch_room room)
    exact ⟨(staged.enter key fits).close rfl, by simp [HasRoom, Loader.close]⟩
  | expire batch isOpen => exact ⟨staged.close isOpen, by simp [HasRoom, Loader.close]⟩
  | skip batch due stopped => exact ⟨by simpa using staged.settle_waiting due .cancelled, room⟩
  | call batch due active => exact ⟨by simpa using staged.call due, room⟩
  | answer batch result called => exact ⟨by simpa using staged.settle_running called _, room⟩
  | giveUp batch called stopped =>
    exact ⟨by simpa using staged.settle_running called .cancelled, room⟩
  | publish batch outcome ended => exact ⟨by simpa using staged.publish ended, room⟩
  | cancel =>
    have kept : l.cancel.Staged closed := staged.move rfl rfl rfl (.refl _) fun _ h => h
    exact ⟨by simpa using kept, room⟩

end Staged

end Loader

end Transit
