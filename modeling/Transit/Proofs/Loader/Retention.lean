import Transit.Proofs.Loader.Capacity
import Transit.Proofs.Loader.Delivery
set_option autoImplicit false

/-!
# What a loader retains

The end of a batch decides which of its keys stay in the cache. `Retained` says that a key with a
value stays under the batch that brought the value, that no key stays under a batch that failed it,
and that cancelled keys are not in the cache at all. `Fetched` says that answers are given to calls
only, and that a batch ends with the answer to it. Every turn keeps both, so they hold of all loaders
that are `Reached` by runs.
-/

namespace Transit

namespace Outcome

variable {ν : Type}

theorem ofResult_ne_cancelled [Inhabited ν] (keys : Nat) (answer : BatchAnswer ν) :
    ofResult keys answer ≠ .cancelled := by
  cases answer with
  | error e => simp [ofResult]
  | ok entries =>
    rw [ofResult]
    split <;> simp

/-- A position fails just when an error is learnt there. -/
theorem isFailure_iff [Inhabited ν] (o : Outcome ν) (index : Nat) :
    o.isFailure index = true ↔ ∃ e, o.entry index = .error e := by
  cases o with
  | cancelled => simp [isFailure, entry]
  | failed cause => simp [isFailure, entry]
  | values entries =>
    cases found : entries[index]? with
    | none => simp [isFailure, entry, found]
    | some e => cases e <;> simp [isFailure, entry, found]

theorem isFailure_of_entry_ok [Inhabited ν] {o : Outcome ν} {index : Nat} {v : ν}
    (given : o.entry index = .ok v) : o.isFailure index = false := by
  rw [Bool.eq_false_iff, ne_eq, isFailure_iff, given]
  rintro ⟨e, isError⟩
  cases isError

end Outcome

namespace Loader

variable {κ ν : Type}

theorem mem_outcomes_settle [DecidableEq κ] (l : Loader κ ν) (batch : Batch κ)
    (outcome : Outcome ν) (pair : Nat × Outcome ν) :
    pair ∈ (l.settle batch outcome).outcomes ↔ pair ∈ l.outcomes ∨ pair = (batch.id, outcome) := by
  simp only [outcomes, settle, List.map_append, List.map_cons, List.map_nil, List.mem_append,
    List.mem_singleton]
  tauto

section Lookup

variable [DecidableEq κ] {cache : List (κ × Slot)} {key : κ} {slot : Slot}

/-- What is found is found in any part of a table that holds it. -/
theorem lookup_filter_of_keep {keep : κ × Slot → Bool} (found : cache.lookup key = some slot)
    (kept : keep (key, slot) = true) : (cache.filter keep).lookup key = some slot := by
  obtain ⟨before, after, rfl, absent⟩ := List.lookup_eq_some_iff.mp found
  rw [List.filter_append, List.filter_cons, if_pos kept, List.lookup_eq_some_iff]
  exact ⟨_, _, rfl, fun entry member => absent entry (List.mem_filter.mp member).1⟩

theorem lookup_eq_none_of_forall (absent : ∀ slot, (key, slot) ∉ cache) :
    cache.lookup key = none := by
  cases found : cache.lookup key with
  | none => rfl
  | some slot => exact absurd (mem_of_lookup found) (absent slot)

theorem not_mem_of_lookup_eq_none (unknown : cache.lookup key = none) (slot : Slot) :
    (key, slot) ∉ cache := by
  intro member
  have differs := List.lookup_eq_none_iff.mp unknown (key, slot) member
  simp at differs

end Lookup

/-! ## Keys and the ends of their batches -/

structure Retained [DecidableEq κ] (l : Loader κ ν) (closed : List (Batch κ)) : Prop where
  distinct : (l.cache.map (·.1)).Nodup
  kept : ∀ batch ∈ l.batches closed, ∀ outcome, (batch.id, outcome) ∈ l.outcomes →
    ∀ index key, batch.keys[index]? = some key → outcome.isFailure index = false →
      l.cache.lookup key = some ⟨batch.id, index⟩
  dropped : ∀ key slot, (key, slot) ∈ l.cache → ∀ outcome, (slot.batch, outcome) ∈ l.outcomes →
    outcome.isFailure slot.index = false
  cleared : ∀ batch ∈ l.batches closed, (batch.id, Outcome.cancelled) ∈ l.outcomes →
    ∀ key ∈ batch.keys, l.cache.lookup key = none

namespace Retained

variable [DecidableEq κ] {l next : Loader κ ν} {closed : List (Batch κ)}

theorem of_subset (retained : l.Retained closed) {later : List (Batch κ)}
    (cache : next.cache = l.cache) (batches : next.batches later ⊆ l.batches closed)
    (outcomes : next.outcomes ⊆ l.outcomes) : next.Retained later where
  distinct := by
    rw [cache]
    exact retained.distinct
  kept := by
    intro batch member outcome ended
    rw [cache]
    exact retained.kept batch (batches member) outcome (outcomes ended)
  dropped := by
    intro key slot member outcome ended
    rw [cache] at member
    exact retained.dropped key slot member outcome (outcomes ended)
  cleared := by
    intro batch member ended
    rw [cache]
    exact retained.cleared batch (batches member) (outcomes ended)

/-- A new key joins a batch that has not ended, and hides no other key. -/
theorem enter (retained : l.Retained closed) {key : κ} (unknown : l.cache.lookup key = none)
    (fresh : ∀ outcome, (l.currentBatch.id, outcome) ∉ l.outcomes)
    (active : ∀ id, (id, Outcome.cancelled) ∉ l.outcomes) : (l.entered key).Retained closed where
  distinct := by
    rw [entered, List.map_cons, List.nodup_cons]
    refine ⟨?_, retained.distinct⟩
    intro member
    obtain ⟨⟨known, slot⟩, inCache, rfl⟩ := List.mem_map.mp member
    exact not_mem_of_lookup_eq_none unknown slot inCache
  kept := by
    intro batch member outcome ended index other holds fine
    rcases List.mem_append.mp member with old | isOpen
    · have known := retained.kept batch (List.mem_append_left _ old) outcome ended index other
        holds fine
      have differs : other ≠ key := by
        rintro rfl
        rw [unknown] at known
        contradiction
      rw [Cached.lookup_entered_of_ne differs]
      exact known
    · obtain rfl : batch = l.grown key := by simpa [entered] using isOpen
      exact absurd ended (fresh outcome)
  dropped := by
    intro other slot member outcome ended
    rcases List.mem_cons.mp member with new | old
    · obtain ⟨rfl, rfl⟩ := Prod.mk.inj new
      exact absurd ended (fresh outcome)
    · exact retained.dropped other slot old outcome ended
  cleared := by
    intro batch _ ended
    exact absurd ended (active batch.id)

/-- A batch that ends keeps the keys that got a value from it, and no others. -/
theorem settle (retained : l.Retained closed) (cached : l.Cached closed) (staged : l.Staged closed)
    {before : Loader κ ν} {batch : Batch κ} (outcome : Outcome ν) (cache : before.cache = l.cache)
    (isOpen : before.openBatch = l.openBatch) (outcomes : before.outcomes = l.outcomes)
    (known : batch ∈ l.batches closed) (unsettled : batch ∈ l.unsettled)
    (pending : ∀ end', (batch.id, end') ∉ l.outcomes) :
    (before.settle batch outcome).Retained closed := by
  have evicts : (before.settle batch outcome).cache = evict l.cache batch outcome := by
    rw [Loader.settle, cache]
  have ends : ∀ pair, pair ∈ (before.settle batch outcome).outcomes ↔
      pair ∈ l.outcomes ∨ pair = (batch.id, outcome) := by
    intro pair
    rw [mem_outcomes_settle, outcomes]
  have same : (before.settle batch outcome).batches closed = l.batches closed := by
    rw [batches, batches, ← isOpen]
    rfl
  refine ⟨?_, ?_, ?_, ?_⟩
  · rw [evicts, Loader.evict]
    exact (List.filter_sublist.map _).nodup retained.distinct
  · intro other member o ended index key holds fine
    rw [same] at member
    rw [evicts]
    rcases (ends _).mp ended with old | new
    · have found := retained.kept other member o old index key holds fine
      have differs : other.id ≠ batch.id := fun sameId => pending o (sameId ▸ old)
      exact lookup_evict_of_ne outcome found differs
    · obtain ⟨sameId, rfl⟩ := Prod.mk.inj new
      obtain rfl := staged.eq_of_id_eq member known sameId
      have found := cached.found other unsettled index key holds
      exact lookup_filter_of_keep found (by simp [fine])
  · intro key slot member o ended
    rw [evicts] at member
    obtain ⟨inCache, survives⟩ := List.mem_filter.mp member
    rcases (ends _).mp ended with old | new
    · exact retained.dropped key slot inCache o old
    · obtain ⟨sameId, rfl⟩ := Prod.mk.inj new
      obtain ⟨carrier, inBatches, id, holds⟩ := cached.carried key slot inCache
      obtain rfl := staged.eq_of_id_eq inBatches known (id.trans sameId)
      simpa [sameId, List.mem_of_getElem? holds] using survives
  · intro other member ended key inKeys
    rw [same] at member
    rw [evicts]
    refine lookup_eq_none_of_forall ?_
    intro slot inEvicted
    obtain ⟨inCache, survives⟩ := List.mem_filter.mp inEvicted
    rcases (ends _).mp ended with old | new
    · exact not_mem_of_lookup_eq_none (retained.cleared other member old key inKeys) slot inCache
    · obtain ⟨sameId, rfl⟩ := Prod.mk.inj new
      obtain rfl := staged.eq_of_id_eq member known sameId
      obtain ⟨index, holds⟩ := List.getElem?_of_mem inKeys
      have found := mem_of_lookup (cached.found other unsettled index key holds)
      have sole := List.inj_on_of_nodup_map retained.distinct inCache found rfl
      obtain rfl := (Prod.mk.inj sole).2
      simp [Outcome.isFailure, inKeys] at survives

end Retained

/-! ## Calls and their answers -/

/-- The end of a batch stays what it is. -/
theorem Staged.keeps_outcome [DecidableEq κ] [Inhabited ν] {l next : Loader κ ν}
    {closed : List (Batch κ)} (staged : l.Staged closed) {e : Event κ ν} {shut : List (Batch κ)}
    {new : List (Batch κ × BatchAnswer ν)} (turn : Turn l e shut new next) :
    l.outcomes ⊆ next.outcomes := by
  intro pair member
  cases turn with
  | skip batch due stopped => exact (mem_outcomes_settle _ _ _ _).mpr (.inl member)
  | answer batch result called => exact (mem_outcomes_settle _ _ _ _).mpr (.inl member)
  | giveUp batch called stopped => exact (mem_outcomes_settle _ _ _ _).mpr (.inl member)
  | publish batch outcome ended =>
    rcases List.mem_append.mp member with settling | settled
    · obtain ⟨⟨other, end'⟩, inSettling, rfl⟩ := List.mem_map.mp settling
      by_cases same : other.id = batch.id
      · have sole := List.inj_on_of_nodup_map staged.settling_nodup inSettling ended same
        obtain ⟨rfl, rfl⟩ := Prod.mk.inj sole
        exact List.mem_append_right _ List.mem_cons_self
      · refine List.mem_append_left _ (List.mem_map.mpr ⟨(other, end'), ?_, rfl⟩)
        exact List.mem_filter.mpr ⟨inSettling, bne_iff_ne.mpr same⟩
    · exact List.mem_append_right _ (List.mem_cons_of_mem _ settled)
  | _ => exact member

structure Fetched [Inhabited ν] (l : Loader κ ν) (given : List (Batch κ × BatchAnswer ν)) :
    Prop where
  running : ∀ batch ∈ l.running, batch ∈ l.calls
  answered : ∀ batch answer, (batch, answer) ∈ given → batch ∈ l.calls
  recorded : ∀ batch answer, (batch, answer) ∈ given →
    (batch.id, Outcome.ofResult batch.keys.length answer) ∈ l.outcomes

theorem Fetched.of_subset [Inhabited ν] {l next : Loader κ ν}
    {given : List (Batch κ × BatchAnswer ν)}
    (fetched : l.Fetched given) (running : next.running ⊆ l.running)
    (calls : l.calls ⊆ next.calls) (outcomes : l.outcomes ⊆ next.outcomes) :
    next.Fetched given where
  running := fun batch member => calls (fetched.running batch (running member))
  answered := fun batch answer member => calls (fetched.answered batch answer member)
  recorded := fun batch answer member => outcomes (fetched.recorded batch answer member)

section
variable [DecidableEq κ] [Inhabited ν]

theorem Fetched.turn {l next : Loader κ ν} {closed : List (Batch κ)}
    {given : List (Batch κ × BatchAnswer ν)} (fetched : l.Fetched given) (staged : l.Staged closed)
    {e : Event κ ν} {shut : List (Batch κ)} {new : List (Batch κ × BatchAnswer ν)}
    (turn : Turn l e shut new next) : next.Fetched (given ++ new) := by
  have fewer : ∀ id, l.running.filter (·.id != id) ⊆ l.running := fun _ => List.filter_subset_self _
  have keeps := staged.keeps_outcome turn
  cases turn with
  | call batch due active =>
    rw [List.append_nil]
    refine ⟨?_, fun other answer member => List.mem_append_left _ (fetched.answered _ _ member),
      fetched.recorded⟩
    intro other member
    rcases List.mem_append.mp member with runs | called
    · exact List.mem_append_left _ (fetched.running other runs)
    · exact List.mem_append_right _ called
  | answer batch result called =>
    refine ⟨fun other runs => fetched.running other (fewer batch.id runs), ?_, ?_⟩
    · intro other answer member
      rcases List.mem_append.mp member with old | answered
      · exact fetched.answered other answer old
      · obtain ⟨rfl, _⟩ := Prod.mk.inj (List.mem_singleton.mp answered)
        exact fetched.running other called
    · intro other answer member
      rcases List.mem_append.mp member with old | answered
      · exact keeps (fetched.recorded other answer old)
      · obtain ⟨rfl, rfl⟩ := Prod.mk.inj (List.mem_singleton.mp answered)
        exact (mem_outcomes_settle _ _ _ _).mpr (.inr rfl)
  | giveUp batch called stopped =>
    rw [List.append_nil]
    exact fetched.of_subset (fewer batch.id) (fun _ member => member) keeps
  | _ =>
    rw [List.append_nil]
    exact fetched.of_subset (fun _ member => member) (fun _ member => member) keeps

/-! ## Reached loaders -/

theorem Consistent.not_ended {l : Loader κ ν} {closed : List (Batch κ)}
    {given : List (Batch κ × BatchAnswer ν)} (consistent : l.Consistent closed given)
    {batch : Batch κ} (unsettled : batch ∈ l.unsettled) (outcome : Outcome ν) :
    (batch.id, outcome) ∉ l.outcomes := by
  intro ended
  exact ((consistent.mem_unsettled_iff batch).mp unsettled).2 (List.mem_map_of_mem ended)

/-- Only a loader that has been cancelled cancels batches. -/
theorem Consistent.cancelled_of_outcome {l : Loader κ ν} {closed : List (Batch κ)}
    {given : List (Batch κ × BatchAnswer ν)} (consistent : l.Consistent closed given) {id : Nat}
    (ended : (id, Outcome.cancelled) ∈ l.outcomes) : l.cancelled = true := by
  rcases consistent.answered.outcomes id _ ended with ⟨_, stopped⟩ | ⟨_, _, _, _, isResult⟩
  · exact stopped
  · exact absurd isResult.symm (Outcome.ofResult_ne_cancelled _ _)

theorem Retained.turn {l next : Loader κ ν} {closed : List (Batch κ)}
    {given : List (Batch κ × BatchAnswer ν)} (retained : l.Retained closed)
    (consistent : l.Consistent closed given) {e : Event κ ν} {shut : List (Batch κ)}
    {new : List (Batch κ × BatchAnswer ν)} (turn : Turn l e shut new next) :
    next.Retained (closed ++ shut) := by
  have cached := consistent.cached
  have staged := consistent.staged
  have later := consistent.turn turn
  have same : ∀ other : Loader κ ν, other.openBatch = l.openBatch →
      other.batches (closed ++ []) ⊆ l.batches closed := by
    intro other isOpen
    rw [List.append_nil, batches, isOpen]
    exact fun _ member => member
  have ends : ∀ batch ∈ l.unsettled, batch ∈ l.batches closed ∧
      ∀ outcome, (batch.id, outcome) ∉ l.outcomes :=
    fun batch member => ⟨consistent.unsettled_batches member, consistent.not_ended member⟩
  cases turn with
  | rest e => exact retained.of_subset rfl (same _ rfl) fun _ member => member
  | enter key active unknown room =>
    have joined : l.grown key ∈ (l.entered key).unsettled := by simp [unsettled, entered]
    have fresh := later.not_ended joined
    rw [List.append_nil]
    refine retained.enter unknown fresh ?_
    intro id ended
    rw [consistent.cancelled_of_outcome ended] at active
    contradiction
  | fill key active unknown full =>
    have joined : l.grown key ∈ ((l.entered key).close (l.grown key)).unsettled := by
      simp [unsettled, Loader.close]
    have fresh := later.not_ended joined
    have entered : (l.entered key).Retained closed := by
      refine retained.enter unknown fresh ?_
      intro id ended
      rw [consistent.cancelled_of_outcome ended] at active
      contradiction
    refine entered.of_subset rfl ?_ fun _ member => member
    rw [batches_close rfl]
    exact fun _ member => member
  | expire batch isOpen =>
    refine retained.of_subset rfl ?_ fun _ member => member
    rw [batches_close isOpen]
    exact fun _ member => member
  | skip batch due stopped =>
    have unsettled : batch ∈ l.unsettled := by simp [unsettled, due]
    rw [List.append_nil]
    exact retained.settle cached staged .cancelled rfl rfl rfl (ends batch unsettled).1 unsettled
      (ends batch unsettled).2
  | call batch due active => exact retained.of_subset rfl (same _ rfl) fun _ member => member
  | answer batch result called =>
    have unsettled : batch ∈ l.unsettled := by simp [unsettled, called]
    rw [List.append_nil]
    exact retained.settle cached staged _ rfl rfl rfl (ends batch unsettled).1 unsettled
      (ends batch unsettled).2
  | giveUp batch called stopped =>
    have unsettled : batch ∈ l.unsettled := by simp [unsettled, called]
    rw [List.append_nil]
    exact retained.settle cached staged .cancelled rfl rfl rfl (ends batch unsettled).1 unsettled
      (ends batch unsettled).2
  | publish batch outcome ended =>
    refine retained.of_subset rfl (same _ rfl) ?_
    intro pair member
    simp only [outcomes, List.mem_append, List.mem_map, List.mem_filter, List.mem_cons] at member ⊢
    rcases member with ⟨other, ⟨settling, _⟩, rfl⟩ | rfl | settled
    · exact .inl ⟨other, settling, rfl⟩
    · exact .inl ⟨(batch, outcome), ended, rfl⟩
    · exact .inr settled
  | cancel => exact retained.of_subset rfl (same _ rfl) fun _ member => member

/-- What holds of every loader that a run leads to, whatever its capacity. -/
structure Reached (l : Loader κ ν) (closed : List (Batch κ))
    (given : List (Batch κ × BatchAnswer ν)) : Prop where
  consistent : l.capped.Consistent closed given
  retained : l.capped.Retained closed
  fetched : l.capped.Fetched given

namespace Reached

variable {l : Loader κ ν} {closed : List (Batch κ)} {given : List (Batch κ × BatchAnswer ν)}

theorem step (reached : l.Reached closed given) (e : Event κ ν) :
    (l.step e).Reached (closed ++ l.closedBy e) (given ++ l.answeredBy e) := by
  have turn := turn_capped l e
  exact ⟨reached.consistent.turn turn, reached.retained.turn reached.consistent turn,
    reached.fetched.turn reached.consistent.staged turn⟩

theorem run (reached : l.Reached closed given) (events : List (Event κ ν)) :
    (l.run events).Reached (closed ++ l.closedBatches events) (given ++ l.answers events) :=
  run_induction (fun _ e _ _ holds => holds.step e) l events closed given reached

/-- The end of a batch stays what it is, whatever comes after it. -/
theorem keeps_outcome (reached : l.Reached closed given) (events : List (Event κ ν)) :
    l.outcomes ⊆ (l.run events).outcomes := by
  induction events generalizing l closed given with
  | nil => exact fun _ member => member
  | cons e rest ih =>
    have first : l.capped.outcomes ⊆ (l.step e).capped.outcomes :=
      reached.consistent.staged.keeps_outcome (turn_capped l e)
    exact List.Subset.trans first (ih (reached.step e))

end Reached

theorem Carries.run_capped {l : Loader κ ν} {closed : List (Batch κ)} {slot : Slot} {key : κ}
    (carries : l.capped.Carries closed slot key) (events : List (Event κ ν)) :
    (l.run events).capped.Carries (closed ++ l.closedBatches events) slot key := by
  rw [capped_run, ← closedBatches_capped]
  exact carries.run events

theorem reached_of_run (capacity : Nat) (events : List (Event κ ν)) :
    ((empty capacity : Loader κ ν).run events).Reached
      ((empty capacity : Loader κ ν).closedBatches events)
      ((empty capacity : Loader κ ν).answers events) := by
  have begun : (empty capacity : Loader κ ν).Reached [] [] := by
    refine ⟨consistent_capped capacity [], ?_, ?_⟩
    · exact ⟨by simp [capped, empty], by simp [outcomes, capped, empty],
        by simp [capped, empty], by simp [outcomes, capped, empty]⟩
    · exact ⟨by simp [capped, empty], by simp, by simp⟩
  simpa using begun.run events

/-- The slot of a load carries its key, whatever comes after the load. -/
theorem carries_of_load (capacity : Nat) (before : List (Event κ ν)) {key : κ} {slot : Slot}
    (handed : (((empty capacity : Loader κ ν).run before).submit key).1 = .ok slot)
    (after : List (Event κ ν)) :
    ((empty capacity : Loader κ ν).run (before ++ .submit key :: after)).capped.Carries
      ((empty capacity : Loader κ ν).closedBatches (before ++ .submit key :: after)) slot key := by
  have reached := reached_of_run (κ := κ) (ν := ν) capacity before
  have handedCapped :
      (((empty capacity : Loader κ ν).run before).capped.submit key).1 = .ok slot := by
    rw [capped_submit, handed]
  have carries := (reached.consistent.carries_of_submit handedCapped).run after
  rw [List.append_assoc] at carries
  rw [run_append, capped_run, closedBatches_append, ← closedBatches_capped _ (.submit key :: after)]
  exact carries

end

end Loader

end Transit
