import Mathlib.Algebra.BigOperators.Group.List.Basic
import Mathlib.Algebra.Order.Floor.Div
import Mathlib.Data.Finset.Dedup
import Transit.Proofs.Loader.Grouping
import Transit.Proofs.Loader.Submission
set_option autoImplicit false

/-!
# Keys in batches

Keys that are submitted one after another fill batches in the order of their first occurrence:
`Chunked` says what holds between two of them, and `coalesced_of_submitAll` what has come of all of
them. Every batch but the last is full.
-/

namespace Transit

namespace Loader

variable {κ ν : Type}

/-- The batches that have not been called yet. -/
def gathered (l : Loader κ ν) : List (Batch κ) := l.waiting ++ l.openBatch.toList

/-- Some batches were waiting; since then these keys have been taken, in full batches with ids in
order and in the one that is open. -/
structure Chunked (l : Loader κ ν) (first : Nat) (earlier full : List (Batch κ))
    (taken : List κ) : Prop where
  active : l.cancelled = false
  room : l.currentBatch.keys.length < l.capacity
  filled : ∀ batch, l.openBatch = some batch → batch.keys ≠ []
  waiting : l.waiting = earlier ++ full
  sized : ∀ batch ∈ full, batch.keys.length = l.capacity
  taken_eq : taken = full.flatMap (·.keys) ++ l.currentBatch.keys
  numbered : full.map (·.id) = List.range' first full.length
  current : l.currentBatch.id = first + full.length
  next : l.nextId = first + full.length + l.openBatch.toList.length

theorem chunked_of_closed {l : Loader κ ν} (active : l.cancelled = false)
    (positive : 0 < l.capacity) (noOpen : l.openBatch = none) :
    l.Chunked l.nextId l.waiting [] [] where
  active
  room := by simpa [currentBatch, noOpen] using positive
  filled := by simp [noOpen]
  waiting := (List.append_nil _).symm
  sized := by simp
  taken_eq := by simp [currentBatch, noOpen]
  numbered := rfl
  current := by simp [currentBatch, noOpen]
  next := by simp [noOpen]

namespace Chunked

variable {l : Loader κ ν} {first : Nat} {earlier full : List (Batch κ)} {taken : List κ}

/-- Joining a key opens a batch if none is open. -/
theorem next_entered (chunked : l.Chunked first earlier full taken) (key : κ) :
    (l.entered key).nextId = first + full.length + 1 := by
  have next := chunked.next
  cases isOpen : l.openBatch <;> simp_all [entered]

theorem join (chunked : l.Chunked first earlier full taken) (key : κ) :
    ∃ later, (l.join key).Chunked first earlier later (taken ++ [key]) := by
  have next := chunked.next_entered key
  have taken_eq := chunked.taken_eq
  by_cases room : l.currentBatch.keys.length + 1 < l.capacity
  · refine ⟨full, ?_⟩
    rw [l.join_of_room key room]
    have current : (l.entered key).currentBatch = l.grown key := rfl
    exact {
      active := chunked.active
      room := by
        rw [current, grown, List.length_append]
        exact room
      filled := by
        intro batch isOpen
        obtain rfl : l.grown key = batch := by simpa [entered] using isOpen
        simp [grown]
      waiting := chunked.waiting
      sized := chunked.sized
      taken_eq := by rw [taken_eq, current, grown, List.append_assoc]
      numbered := chunked.numbered
      current := chunked.current
      next }
  · refine ⟨full ++ [l.grown key], ?_⟩
    have isFull := Nat.le_of_not_lt room
    have before := chunked.room
    rw [l.join_of_full key isFull]
    exact {
      active := chunked.active
      room := Nat.lt_of_le_of_lt (Nat.zero_le _) before
      filled := by simp [close]
      waiting := by simp [close, entered, chunked.waiting]
      sized := by
        intro batch member
        rcases List.mem_append.mp member with old | new
        · exact chunked.sized batch old
        · obtain rfl := List.mem_singleton.mp new
          simp only [grown, close, entered, List.length_append, List.length_singleton]
          omega
      taken_eq := by simp [taken_eq, currentBatch, close, grown]
      numbered := by
        rw [List.map_append, chunked.numbered, List.length_append, List.length_singleton,
          List.range'_1_concat]
        exact congrArg (_ ++ [·]) chunked.current
      current := by
        rw [List.length_append]
        exact next
      next := by
        rw [List.length_append]
        exact next }

end Chunked

variable [DecidableEq κ]

/-- The keys that have no slot yet, in the order of their first occurrence. -/
def newKeys (l : Loader κ ν) (keys : List κ) : List κ :=
  (keys.filter fun key => (l.cache.lookup key).isNone).eraseDups

/-- A key that has joined is not new any more. -/
theorem newKeys_cons {l : Loader κ ν} {key : κ} (unknown : l.cache.lookup key = none)
    (rest : List κ) : l.newKeys (key :: rest) = key :: (l.join key).newKeys rest := by
  have cache : (l.join key).cache =
      (key, ⟨l.currentBatch.id, l.currentBatch.keys.length⟩) :: l.cache := by
    unfold join
    dsimp only
    split <;> rfl
  have kept : (key :: rest).filter (fun key => (l.cache.lookup key).isNone) =
      key :: rest.filter fun key => (l.cache.lookup key).isNone := by simp [unknown]
  rw [newKeys, newKeys, kept, List.eraseDups_cons, List.filter_filter, cache]
  congr 3
  funext other
  by_cases same : other = key
  · simp [same]
  · simp [List.lookup_cons, beq_eq_false_iff_ne.mpr same]

theorem Chunked.submitAll {l : Loader κ ν} {first : Nat} {earlier full : List (Batch κ)}
    {taken : List κ} (chunked : l.Chunked first earlier full taken) (keys : List κ) :
    ∃ later, (l.submitAll keys).2.Chunked first earlier later (taken ++ l.newKeys keys) := by
  induction keys generalizing l full taken with
  | nil => exact ⟨full, by simpa [newKeys, Loader.submitAll] using chunked⟩
  | cons key rest ih =>
    cases known : l.cache.lookup key with
    | some slot =>
      have same : l.submit key = (.ok slot, l) := by simp [submit, chunked.active, known]
      have skipped : l.newKeys (key :: rest) = l.newKeys rest := by simp [newKeys, known]
      rw [skipped, Loader.submitAll, same]
      exact ih chunked
    | none =>
      have joins : (l.submit key).2 = l.join key := by simp [submit, chunked.active, known]
      obtain ⟨joined, chunkedJoined⟩ := chunked.join key
      obtain ⟨later, others⟩ := ih chunkedJoined
      rw [← joins, List.append_assoc] at others
      rw [newKeys_cons known, ← joins]
      exact ⟨later, others⟩

/-- Asking for keys calls nothing. -/
theorem calls_submitAll (l : Loader κ ν) (keys : List κ) : (l.submitAll keys).2.calls = l.calls := by
  induction keys generalizing l with
  | nil => rfl
  | cons key rest ih =>
    refine (ih (l.submit key).2).trans ?_
    unfold submit
    split
    · rfl
    · split
      · rfl
      · dsimp only [join]
        split <;> rfl

/-- The fewest batches for the distinct keys of a list: each but the last is full, they carry every
key once, in the order of its first occurrence, and they are numbered from here on. -/
structure Coalesced (capacity first : Nat) (keys : List κ) (batches : List (Batch κ)) : Prop where
  count : batches.length = keys.toFinset.card ⌈/⌉ capacity
  full : ∀ batch ∈ batches.dropLast, batch.keys.length = capacity
  carried : batches.flatMap (·.keys) = keys.eraseDups
  numbered : batches.map (·.id) = List.range' first batches.length

theorem Coalesced.first_le {capacity first : Nat} {keys : List κ} {batches : List (Batch κ)}
    (coalesced : Coalesced capacity first keys batches) {batch : Batch κ}
    (member : batch ∈ batches) : first ≤ batch.id := by
  have inRange := List.mem_map_of_mem (f := (·.id)) member
  rw [coalesced.numbered] at inRange
  exact (List.mem_range'_1.mp inRange).1

/-- The batches since then are full but for the one that is open. -/
theorem Chunked.coalesced {l : Loader κ ν} {first : Nat} {earlier full : List (Batch κ)}
    {keys : List κ} (chunked : l.Chunked first earlier full keys.eraseDups) :
    Coalesced l.capacity first keys (full ++ l.openBatch.toList) := by
  have positive : 0 < l.capacity := Nat.lt_of_le_of_lt (Nat.zero_le _) chunked.room
  have distinct : keys.eraseDups.length = keys.toFinset.card := by
    rw [← List.toFinset_card_of_nodup (Param.nodup_eraseDups keys)]
    congr 1
    ext key
    simp
  have total : (full.flatMap (·.keys)).length = l.capacity * full.length := by
    rw [List.length_flatMap, List.map_congr_left chunked.sized, List.map_const',
      List.sum_replicate, smul_eq_mul, Nat.mul_comm]
  have taken := chunked.taken_eq
  rw [taken, List.length_append, total] at distinct
  cases isOpen : l.openBatch with
  | none =>
    have current : l.currentBatch.keys = [] := by simp [currentBatch, isOpen]
    rw [current, List.append_nil] at taken
    simp only [current, Option.toList_none, List.append_nil, List.length_nil, Nat.add_zero]
      at distinct ⊢
    refine ⟨?_, fun batch member => chunked.sized batch (List.mem_of_mem_dropLast member),
      taken.symm, chunked.numbered⟩
    rw [← distinct, ← smul_eq_mul, smul_ceilDiv positive]
  | some batch =>
    have current : l.currentBatch = batch := by simp [currentBatch, isOpen]
    have filled := List.length_pos_iff.mpr (chunked.filled batch isOpen)
    have room := chunked.room
    have id := chunked.current
    rw [current] at room taken distinct id
    refine ⟨?_, by simpa using chunked.sized, by simp [taken], ?_⟩
    · have last : (batch.keys.length + l.capacity - 1) / l.capacity = 1 :=
        Nat.div_eq_of_lt_le (by omega) (by omega)
      rw [List.length_append, ← distinct, Nat.ceilDiv_eq_add_pred_div, Nat.add_assoc,
        Nat.add_sub_assoc (by omega), Nat.mul_add_div positive, last]
      rfl
    · rw [Option.toList_some, List.map_append, chunked.numbered, List.length_append,
        List.length_singleton, List.range'_1_concat, ← id]
      rfl

/-- Keys without slots that are submitted at once, while no batch is open, are coalesced into
batches behind those that wait. -/
theorem coalesced_of_submitAll [Inhabited ν] {l : Loader κ ν} (active : l.cancelled = false)
    (positive : 0 < l.capacity) (noOpen : l.openBatch = none) {keys : List κ}
    (unknown : ∀ key ∈ keys, l.cache.lookup key = none) :
    ∃ batches, (l.submitAll keys).2.gathered = l.waiting ++ batches ∧
      Coalesced l.capacity l.nextId keys batches := by
  obtain ⟨full, chunked⟩ := (chunked_of_closed active positive noOpen).submitAll keys
  have all : l.newKeys keys = keys.eraseDups := by
    rw [newKeys, List.filter_eq_self.mpr fun key member => by simp [unknown key member]]
  have capacity : (l.submitAll keys).2.capacity = l.capacity := by
    rw [submitAll_run, capacity_run]
  rw [List.nil_append, all] at chunked
  refine ⟨full ++ (l.submitAll keys).2.openBatch.toList, ?_, capacity ▸ chunked.coalesced⟩
  rw [gathered, chunked.waiting, List.append_assoc]

end Loader

end Transit
