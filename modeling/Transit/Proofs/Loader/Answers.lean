import Transit.Proofs.Loader.Cache
set_option autoImplicit false

/-!
# Consistent loaders

`Answered` says where the outcomes of batches come from: cancellation, or the one answer that the
fetcher gave to the batch. Together with the stages of the batches and the cache it makes a loader
`Consistent` with the batches that were closed and the answers that were given on the way to it.
Runs keep loaders consistent, so every reachable loader is (`consistent_of_run`), which bounds and
separates its batches (`reachable_batches_sound`).
-/

namespace Transit

namespace Loader

variable {κ ν : Type} [Inhabited ν]

structure Answered (l : Loader κ ν) (closed : List (Batch κ))
    (given : List (Batch κ × BatchAnswer ν)) : Prop where
  outcomes : ∀ id outcome, (id, outcome) ∈ l.outcomes →
    (outcome = .cancelled ∧ l.cancelled = true) ∨
      ∃ batch result, (batch, result) ∈ given ∧ batch.id = id ∧
        outcome = .ofResult batch.keys.length result
  wasClosed : ∀ batch result, (batch, result) ∈ given → batch ∈ closed
  ended : ∀ batch result, (batch, result) ∈ given → batch.id ∈ l.outcomes.map (·.1)
  once : (given.map (·.1.id)).Nodup

namespace Answered

variable {l : Loader κ ν} {closed : List (Batch κ)} {given : List (Batch κ × BatchAnswer ν)}

/-- Turns without answers keep all of this if outcomes only come from cancellation. -/
theorem move (answered : l.Answered closed given) {next : Loader κ ν} {shut : List (Batch κ)}
    (latched : l.cancelled = true → next.cancelled = true)
    (kept : ∀ id ∈ l.outcomes.map (·.1), id ∈ next.outcomes.map (·.1))
    (added : ∀ pair ∈ next.outcomes, pair ∈ l.outcomes ∨
      (pair.2 = .cancelled ∧ next.cancelled = true)) :
    next.Answered (closed ++ shut) given where
  outcomes := by
    intro id outcome member
    rcases added _ member with old | new
    · rcases answered.outcomes id outcome old with ⟨isCancelled, stopped⟩ | origin
      · exact .inl ⟨isCancelled, latched stopped⟩
      · exact .inr origin
    · exact .inl new
  wasClosed := by
    intro batch result member
    exact List.mem_append_left _ (answered.wasClosed batch result member)
  ended := by
    intro batch result member
    exact kept _ (answered.ended batch result member)
  once := answered.once

theorem of_outcomes_eq (answered : l.Answered closed given) {next : Loader κ ν}
    {shut : List (Batch κ)} (cancelled : next.cancelled = l.cancelled)
    (same : next.outcomes = l.outcomes) : next.Answered (closed ++ shut) given := by
  refine answered.move (fun stopped => by rw [cancelled, stopped]) ?_ ?_
  · rw [same]
    exact fun _ member => member
  · rw [same]
    exact fun _ member => .inl member

/-- A batch that is running has not been answered. -/
theorem not_answered (answered : l.Answered closed given) (staged : l.Staged closed)
    {batch : Batch κ} (called : batch ∈ l.running) : batch.id ∉ given.map (·.1.id) := by
  intro member
  obtain ⟨⟨other, result⟩, inGiven, same⟩ := List.mem_map.mp member
  have ended := answered.ended other result inGiven
  have apart := (List.nodup_append.mp staged.stage_nodup).2.2
  have runs : batch.id ∈ l.running.map (·.id) := List.mem_map_of_mem called
  exact apart batch.id (List.mem_append_right _ runs) other.id ended same.symm

theorem answer [DecidableEq κ] (answered : l.Answered closed given) (staged : l.Staged closed)
    {batch : Batch κ} (called : batch ∈ l.running) (result : BatchAnswer ν) :
    ((l.uncall batch.id).settle batch (.ofResult batch.keys.length result)).Answered closed
      (given ++ [(batch, result)]) where
  outcomes := by
    intro id outcome member
    simp only [Loader.outcomes, settle, uncall, List.map_append, List.map_cons, List.map_nil,
      List.mem_append, List.mem_singleton] at member
    have older : (id, outcome) ∈ l.outcomes →
        (outcome = .cancelled ∧ l.cancelled = true) ∨
          ∃ other result', (other, result') ∈ given ++ [(batch, result)] ∧ other.id = id ∧
            outcome = .ofResult other.keys.length result' := by
      intro old
      rcases answered.outcomes id outcome old with stopped | ⟨other, result', inGiven, origin⟩
      · exact .inl stopped
      · exact .inr ⟨other, result', List.mem_append_left _ inGiven, origin⟩
    rcases member with (settling | new) | settled
    · exact older (List.mem_append_left _ settling)
    · obtain ⟨rfl, rfl⟩ := Prod.mk.inj new
      exact .inr ⟨batch, result, by simp, rfl, rfl⟩
    · exact older (List.mem_append_right _ settled)
  wasClosed := by
    intro other result' member
    rcases List.mem_append.mp member with old | new
    · exact answered.wasClosed other result' old
    · obtain ⟨rfl, rfl⟩ : other = batch ∧ result' = result := by simpa using new
      exact staged.wasClosed other (by simp [called])
  ended := by
    intro other result' member
    have kept : ∀ id, id = batch.id ∨ id ∈ l.outcomes.map (·.1) →
        id ∈ ((l.uncall batch.id).settle batch (.ofResult batch.keys.length result)).outcomes.map
          (·.1) := by
      intro id
      simp only [Loader.outcomes, settle, uncall, List.map_append, List.map_cons, List.map_nil,
        List.mem_append, List.mem_singleton]
      tauto
    rcases List.mem_append.mp member with old | new
    · exact kept _ (.inr (answered.ended other result' old))
    · obtain ⟨rfl, rfl⟩ : other = batch ∧ result' = result := by simpa using new
      exact kept _ (.inl rfl)
  once := by
    rw [List.map_append, List.nodup_append]
    refine ⟨answered.once, by simp, ?_⟩
    intro id member other new same
    obtain rfl : other = batch.id := by simpa using new
    exact answered.not_answered staged called (same ▸ member)

theorem of_cancelled [DecidableEq κ] (answered : l.Answered closed given) (before : Loader κ ν)
    (stopped : l.cancelled = true) (cancelled : before.cancelled = l.cancelled)
    (same : before.outcomes = l.outcomes) (batch : Batch κ) :
    (before.settle batch .cancelled).Answered closed given := by
  have moved : (before.settle batch .cancelled).Answered (closed ++ []) given := by
    refine answered.move (fun _ => by simpa [settle, cancelled] using stopped) ?_ ?_
    · intro id member
      rw [← same] at member
      simp only [Loader.outcomes, settle, List.map_append, List.mem_append] at member ⊢
      tauto
    · intro pair member
      rw [← same]
      simp only [Loader.outcomes, settle, List.map_append, List.map_cons, List.map_nil,
        List.mem_append, List.mem_singleton] at member ⊢
      rcases member with (settling | rfl) | settled
      · exact .inl (.inl settling)
      · exact .inr ⟨rfl, by rw [cancelled, stopped]⟩
      · exact .inl (.inr settled)
  simpa using moved

theorem publish (answered : l.Answered closed given)
    {batch : Batch κ} {outcome : Outcome ν} (ended : (batch, outcome) ∈ l.settling) :
    Loader.Answered { l with
      settling := l.settling.filter (·.1.id != batch.id)
      settled := (batch.id, outcome) :: l.settled } closed given := by
  have moved : Loader.Answered { l with
      settling := l.settling.filter (·.1.id != batch.id)
      settled := (batch.id, outcome) :: l.settled } (closed ++ []) given := by
    refine answered.move id ?_ ?_
    · intro id member
      by_cases same : id = batch.id
      · simp [Loader.outcomes, same]
      · simp only [Loader.outcomes, List.map_append, List.map_map, List.mem_append, List.mem_map,
          Function.comp_def, List.mem_filter, bne_iff_ne, List.map_cons, List.mem_cons] at member ⊢
        rcases member with ⟨pair, settling, rfl⟩ | settled
        · exact .inl ⟨pair, ⟨settling, same⟩, rfl⟩
        · exact .inr (.inr settled)
    · intro pair member
      simp only [Loader.outcomes, List.mem_append, List.mem_map, List.mem_filter, List.mem_cons]
        at member ⊢
      rcases member with ⟨other, ⟨settling, _⟩, rfl⟩ | rfl | settled
      · exact .inl (.inl ⟨other, settling, rfl⟩)
      · exact .inl (.inl ⟨(batch, outcome), ended, rfl⟩)
      · exact .inl (.inr settled)
  simpa using moved

/-- Every turn keeps outcomes and answers together. -/
theorem turn [DecidableEq κ] (answered : l.Answered closed given) (staged : l.Staged closed)
    {e : Event κ ν} {shut : List (Batch κ)} {new : List (Batch κ × BatchAnswer ν)}
    {next : Loader κ ν} (turn : Turn l e shut new next) :
    next.Answered (closed ++ shut) (given ++ new) := by
  cases turn with
  | rest e => simpa using answered
  | enter key active unknown fits =>
    rw [List.append_nil given]
    exact answered.of_outcomes_eq rfl rfl
  | fill key active unknown full =>
    rw [List.append_nil given]
    exact answered.of_outcomes_eq rfl rfl
  | expire batch isOpen =>
    rw [List.append_nil given]
    exact answered.of_outcomes_eq rfl rfl
  | skip batch due stopped =>
    rw [List.append_nil, List.append_nil]
    exact answered.of_cancelled (l.unqueue batch.id) stopped rfl rfl batch
  | call batch due active =>
    rw [List.append_nil given]
    exact answered.of_outcomes_eq rfl rfl
  | answer batch result called =>
    rw [List.append_nil]
    exact answered.answer staged called result
  | giveUp batch called stopped =>
    rw [List.append_nil, List.append_nil]
    exact answered.of_cancelled (l.uncall batch.id) stopped rfl rfl batch
  | publish batch outcome ended =>
    rw [List.append_nil, List.append_nil]
    exact answered.publish ended
  | cancel =>
    rw [List.append_nil given]
    have latched : l.cancelled = true → l.cancel.cancelled = true := fun _ => rfl
    exact answered.move latched (fun _ member => member) (fun _ member => .inl member)

end Answered

end Loader

end Transit
