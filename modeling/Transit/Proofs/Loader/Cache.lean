import Transit.Proofs.Loader.Stages
set_option autoImplicit false

/-!
# The cache of a loader

`Cached` ties the cache to the batches: each key of an unsettled batch is cached under that batch
and its position there, and no entry of the cache names a position that does not hold its key. Every
turn keeps it. A slot carries a key from the moment it is handed out, since open batches only grow
at their end.
-/

namespace Transit

namespace Loader

variable {κ ν : Type}

/-- The slot is a position in some batch, which holds the key there. -/
def Carries (l : Loader κ ν) (closed : List (Batch κ)) (slot : Slot) (key : κ) : Prop :=
  ∃ batch ∈ l.batches closed, batch.id = slot.batch ∧ batch.keys[slot.index]? = some key

section
variable [DecidableEq κ]

structure Cached (l : Loader κ ν) (closed : List (Batch κ)) : Prop where
  found : ∀ batch ∈ l.unsettled, ∀ index key, batch.keys[index]? = some key →
    l.cache.lookup key = some ⟨batch.id, index⟩
  carried : ∀ key slot, (key, slot) ∈ l.cache → l.Carries closed slot key
  distinctKeys : ∀ batch ∈ l.batches closed, batch.keys.Nodup

/-- Eviction spares the keys of other batches. -/
theorem lookup_evict_of_ne {cache : List (κ × Slot)} {batch : Batch κ} {key : κ} {slot : Slot}
    (outcome : Outcome ν) (found : cache.lookup key = some slot) (other : slot.batch ≠ batch.id) :
    (evict cache batch outcome).lookup key = some slot := by
  induction cache with
  | nil => simp at found
  | cons entry rest ih =>
    obtain ⟨k, s⟩ := entry
    rw [List.lookup_cons] at found
    cases same : key == k with
    | true =>
      rw [same] at found
      obtain rfl : s = slot := by simpa using found
      simp [evict, other, List.lookup_cons, same]
    | false =>
      rw [same] at found
      have later := ih (by simpa using found)
      rw [evict, List.filter_cons]
      dsimp only
      split
      · rw [List.lookup_cons, same]
        exact later
      · exact later

end

theorem mem_of_lookup {α β : Type} [DecidableEq α] {table : List (α × β)} {key : α} {found : β}
    (isFound : table.lookup key = some found) : (key, found) ∈ table := by
  obtain ⟨before, after, split, _⟩ := List.lookup_eq_some_iff.mp isFound
  rw [split]
  simp

/-- A slot that carries a key does so after every further turn. -/
theorem Carries.enter {l : Loader κ ν} {closed : List (Batch κ)} {slot : Slot} {key : κ}
    (carries : l.Carries closed slot key) (new : κ) : (l.entered new).Carries closed slot key := by
  obtain ⟨batch, member, id, holds⟩ := carries
  rcases List.mem_append.mp member with old | isOpen
  · exact ⟨batch, List.mem_append_left _ old, id, holds⟩
  · have current : l.currentBatch = batch := by
      have isSome : l.openBatch = some batch := by simpa using isOpen
      simp [currentBatch, isSome]
    refine ⟨l.grown new, by simp [batches, entered], by simpa [grown, current] using id, ?_⟩
    obtain ⟨inside, _⟩ := List.getElem?_eq_some_iff.mp holds
    simpa [grown, current, List.getElem?_append_left inside] using holds

/-- Only the open batch matters beside those that have been closed. -/
theorem Carries.of_open_eq {l next : Loader κ ν} {closed : List (Batch κ)} {slot : Slot} {key : κ}
    (carries : l.Carries closed slot key) (same : next.openBatch = l.openBatch) :
    next.Carries closed slot key := by
  rw [Carries, batches, same]
  exact carries

theorem batches_close {l : Loader κ ν} {closed : List (Batch κ)} {batch : Batch κ}
    (isOpen : l.openBatch = some batch) :
    (l.close batch).batches (closed ++ [batch]) = l.batches closed := by
  simp [batches, close, isOpen]

theorem Carries.turn [DecidableEq κ] [Inhabited ν] {l next : Loader κ ν} {closed : List (Batch κ)}
    {slot : Slot} {key : κ} {e : Event κ ν} {shut : List (Batch κ)}
    {given : List (Batch κ × BatchAnswer ν)} (carries : l.Carries closed slot key)
    (turn : Turn l e shut given next) : next.Carries (closed ++ shut) slot key := by
  cases turn with
  | enter new active unknown fits => simpa using carries.enter new
  | fill new active unknown full =>
    have grown := carries.enter new
    have isOpen : (l.entered new).openBatch = some (l.grown new) := rfl
    rw [Carries, ← batches_close isOpen] at grown
    exact grown
  | expire batch isOpen =>
    rw [Carries, ← batches_close isOpen] at carries
    exact carries
  | rest e =>
    rw [List.append_nil]
    exact carries
  | skip batch due stopped =>
    rw [List.append_nil]
    exact carries.of_open_eq rfl
  | call batch due active =>
    rw [List.append_nil]
    exact carries.of_open_eq rfl
  | answer batch result called =>
    rw [List.append_nil]
    exact carries.of_open_eq rfl
  | giveUp batch called stopped =>
    rw [List.append_nil]
    exact carries.of_open_eq rfl
  | publish batch outcome ended =>
    rw [List.append_nil]
    exact carries.of_open_eq rfl
  | cancel =>
    rw [List.append_nil]
    exact carries.of_open_eq rfl

namespace Cached

variable [DecidableEq κ] {l : Loader κ ν} {closed : List (Batch κ)}

/-- A key that is not cached is in no unsettled batch. -/
theorem not_mem_of_unknown (cached : l.Cached closed) {key : κ}
    (unknown : l.cache.lookup key = none) {batch : Batch κ} (member : batch ∈ l.unsettled) :
    key ∉ batch.keys := by
  intro holds
  obtain ⟨index, inside, found⟩ := List.getElem_of_mem holds
  have known := cached.found batch member index key (by rw [List.getElem?_eq_getElem inside, found])
  rw [unknown] at known
  contradiction

theorem currentBatch_unknown (cached : l.Cached closed) {key : κ}
    (unknown : l.cache.lookup key = none) : key ∉ l.currentBatch.keys := by
  cases isOpen : l.openBatch with
  | none => simp [currentBatch, isOpen]
  | some batch =>
    have member : batch ∈ l.unsettled := by simp [unsettled, isOpen]
    simpa [currentBatch, isOpen] using cached.not_mem_of_unknown unknown member

theorem found_current (cached : l.Cached closed) {index : Nat} {key : κ}
    (holds : l.currentBatch.keys[index]? = some key) :
    l.cache.lookup key = some ⟨l.currentBatch.id, index⟩ := by
  cases isOpen : l.openBatch with
  | none => simp [currentBatch, isOpen] at holds
  | some batch =>
    have current : l.currentBatch = batch := by simp [currentBatch, isOpen]
    rw [current] at holds ⊢
    exact cached.found batch (by simp [unsettled, isOpen]) index key holds

theorem grown_nodup (cached : l.Cached closed) {key : κ} (unknown : l.cache.lookup key = none) :
    (l.grown key).keys.Nodup := by
  have current : l.currentBatch.keys.Nodup := by
    cases isOpen : l.openBatch with
    | none => simp [currentBatch, isOpen]
    | some batch =>
      have known : batch ∈ l.batches closed := by simp [batches, isOpen]
      simpa [currentBatch, isOpen] using cached.distinctKeys batch known
  refine List.nodup_append.mpr ⟨current, List.nodup_singleton key, ?_⟩
  intro old inside new single same
  obtain rfl : new = key := by simpa using single
  exact cached.currentBatch_unknown unknown (same ▸ inside)

/-- Entering a key hides no other key of the cache. -/
theorem lookup_entered_of_ne {key other : κ} (differs : other ≠ key) :
    (l.entered key).cache.lookup other = l.cache.lookup other := by
  rw [entered, List.lookup_cons, beq_eq_false_iff_ne.mpr differs]

theorem found_grown (cached : l.Cached closed) {key : κ} (unknown : l.cache.lookup key = none)
    {index : Nat} {other : κ} (holds : (l.grown key).keys[index]? = some other) :
    (l.entered key).cache.lookup other = some ⟨(l.grown key).id, index⟩ := by
  by_cases inside : index < l.currentBatch.keys.length
  · have current : l.currentBatch.keys[index]? = some other := by
      simpa [grown, List.getElem?_append_left inside] using holds
    have differs : other ≠ key := by
      rintro rfl
      exact cached.currentBatch_unknown unknown (List.mem_of_getElem? current)
    rw [lookup_entered_of_ne differs]
    exact cached.found_current current
  · have last : index = l.currentBatch.keys.length := by
      have bound := (List.getElem?_eq_some_iff.mp holds).1
      simp only [grown, List.length_append, List.length_singleton] at bound
      omega
    subst last
    obtain rfl : key = other := by simpa [grown] using holds
    simp [entered, grown]

theorem enter (cached : l.Cached closed) {key : κ} (unknown : l.cache.lookup key = none) :
    (l.entered key).Cached closed where
  found := by
    intro batch member index other holds
    rw [unsettled, entered, Option.toList_some, List.append_assoc, List.singleton_append,
      List.mem_cons] at member
    rcases member with rfl | closedOnes
    · exact cached.found_grown unknown holds
    · have member : batch ∈ l.unsettled := by
        rw [unsettled, List.append_assoc]
        exact List.mem_append_right _ closedOnes
      have differs : other ≠ key := by
        rintro rfl
        exact cached.not_mem_of_unknown unknown member (List.mem_of_getElem? holds)
      rw [lookup_entered_of_ne differs]
      exact cached.found batch member index other holds
  carried := by
    intro other slot member
    rcases List.mem_cons.mp member with new | old
    · obtain ⟨rfl, rfl⟩ := Prod.mk.inj new
      exact ⟨l.grown other, by simp [batches, entered], rfl, by simp [grown]⟩
    · exact (cached.carried other slot old).enter key
  distinctKeys := by
    intro batch member
    rcases List.mem_append.mp member with old | isOpen
    · exact cached.distinctKeys batch (List.mem_append_left _ old)
    · obtain rfl : batch = l.grown key := by simpa [entered] using isOpen
      exact cached.grown_nodup unknown

theorem close (cached : l.Cached closed) {batch : Batch κ} (isOpen : l.openBatch = some batch) :
    (l.close batch).Cached (closed ++ [batch]) where
  found := by
    intro other member
    have older : other ∈ l.unsettled := by
      simp only [unsettled, Loader.close, isOpen, Option.toList_none, Option.toList_some,
        List.nil_append, List.mem_append, List.mem_singleton] at member ⊢
      tauto
    exact cached.found other older
  carried := by
    intro key slot member
    rw [Carries, batches_close isOpen]
    exact cached.carried key slot member
  distinctKeys := by
    rw [batches_close isOpen]
    exact cached.distinctKeys

theorem of_subset (cached : l.Cached closed) {next : Loader κ ν} (cache : next.cache = l.cache)
    (isOpen : next.openBatch = l.openBatch) (fewer : next.unsettled ⊆ l.unsettled) :
    next.Cached closed where
  found := by
    intro batch member
    rw [cache]
    exact cached.found batch (fewer member)
  carried := by
    intro key slot member
    rw [cache] at member
    exact (cached.carried key slot member).of_open_eq isOpen
  distinctKeys := by
    rw [batches, isOpen]
    exact cached.distinctKeys

theorem evict (cached : l.Cached closed) {next : Loader κ ν} {batch : Batch κ}
    {outcome : Outcome ν} (cache : next.cache = Loader.evict l.cache batch outcome)
    (isOpen : next.openBatch = l.openBatch)
    (others : ∀ other ∈ next.unsettled, other ∈ l.unsettled ∧ other.id ≠ batch.id) :
    next.Cached closed where
  found := by
    intro other member index key holds
    obtain ⟨older, differs⟩ := others other member
    rw [cache]
    exact lookup_evict_of_ne outcome (cached.found other older index key holds) differs
  carried := by
    intro key slot member
    rw [cache] at member
    exact (cached.carried key slot (List.mem_filter.mp member).1).of_open_eq isOpen
  distinctKeys := by
    rw [batches, isOpen]
    exact cached.distinctKeys

/-- Every turn keeps the cache in step with the batches. -/
theorem turn [Inhabited ν] (cached : l.Cached closed) (staged : l.Staged closed)
    {e : Event κ ν} {shut : List (Batch κ)} {given : List (Batch κ × BatchAnswer ν)}
    {next : Loader κ ν} (turn : Turn l e shut given next) : next.Cached (closed ++ shut) := by
  cases turn with
  | rest e => simpa using cached
  | enter key active unknown fits => simpa using cached.enter unknown
  | fill key active unknown full => exact (cached.enter unknown).close rfl
  | expire batch isOpen => exact cached.close isOpen
  | skip batch due stopped =>
    rw [List.append_nil]
    exact cached.evict rfl rfl fun other member => staged.unsettled_unqueue due member
  | call batch due active =>
    rw [List.append_nil]
    refine cached.of_subset rfl rfl ?_
    intro other member
    simp only [unsettled, unqueue, List.mem_append, List.mem_filter, List.mem_singleton]
      at member ⊢
    rcases member with (isOpen | ⟨waits, _⟩) | runs | rfl
    · exact .inl (.inl isOpen)
    · exact .inl (.inr waits)
    · exact .inr runs
    · exact .inl (.inr due)
  | answer batch result called =>
    rw [List.append_nil]
    exact cached.evict rfl rfl fun other member => staged.unsettled_uncall called member
  | giveUp batch called stopped =>
    rw [List.append_nil]
    exact cached.evict rfl rfl fun other member => staged.unsettled_uncall called member
  | publish batch outcome ended =>
    rw [List.append_nil]
    exact cached.of_subset rfl rfl fun _ h => h
  | cancel =>
    rw [List.append_nil]
    exact cached.of_subset rfl rfl fun _ h => h

end Cached

end Loader

end Transit
