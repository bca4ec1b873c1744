import Transit.Proofs.Loader.Cancellation
set_option autoImplicit false

/-!
# Memoization and retry

A batch decides once about each of its keys. A value stays: its key is not fetched again, and every
later load sees the value (`eventually_value`). An error does not stay: a key is fetched again only after
every batch that carried it has ended in an error for it (`failed_before`), and whoever has seen the
error is served by another batch (`moved_on`).
-/

namespace Transit

namespace Loader

variable {κ ν : Type} [Inhabited ν]

/-- The answer to a batch says one thing about each position. -/
theorem Holds.unique {batch : Batch κ} {answer : BatchAnswer ν} {index : Nat}
    {one two : Except LoadError ν} (first : Holds batch answer index one)
    (second : Holds batch answer index two) : one = two := by
  rcases first with ⟨e, rfl, rfl⟩ | ⟨entries, rfl, differs, rfl⟩ |
      ⟨entries, entry, rfl, equal, found, rfl⟩ <;>
    rcases second with ⟨e', isError, rfl⟩ | ⟨entries', isOk, differs', rfl⟩ |
      ⟨entries', entry', isOk, equal', found', rfl⟩
  · obtain rfl := Except.error.inj isError
    rfl
  · cases isOk
  · cases isOk
  · cases isError
  · rfl
  · obtain rfl := Except.ok.inj isOk
    exact absurd equal' differs
  · cases isError
  · obtain rfl := Except.ok.inj isOk
    exact absurd equal differs'
  · obtain rfl := Except.ok.inj isOk
    obtain rfl := Option.some.inj (found.symm.trans found')
    rfl

/-- Answers do not cancel. -/
theorem Holds.failed {batch : Batch κ} {answer : BatchAnswer ν} {index : Nat} {e : LoadError}
    (holds : Holds batch answer index (.error e)) : ∃ cause, e = .failed cause := by
  rcases holds with ⟨cause, _, isError⟩ | ⟨_, _, _, isError⟩ | ⟨_, entry, _, _, _, isError⟩
  · exact ⟨cause, Except.error.inj isError⟩
  · cases isError
  · cases entry with
    | error cause => exact ⟨cause, Except.error.inj isError⟩
    | ok v => cases isError

theorem entry_of_holds {batch : Batch κ} {answer : BatchAnswer ν} {index : Nat} {key : κ}
    {seen : Except LoadError ν} (carried : batch.keys[index]? = some key)
    (holds : Holds batch answer index seen) :
    (Outcome.ofResult batch.keys.length answer).entry index = seen :=
  (holds_ofResult batch answer carried).unique holds

variable [DecidableEq κ]

/-- The fetcher is called for a batch that was waiting, if at all. -/
theorem calls_of_turn {l next : Loader κ ν} {e : Event κ ν} {shut : List (Batch κ)}
    {new : List (Batch κ × BatchAnswer ν)} (turn : Turn l e shut new next) :
    next.calls = l.calls ∨
      ∃ batch ∈ l.waiting, l.cancelled = false ∧ next.calls = l.calls ++ [batch] := by
  cases turn with
  | call batch due active => exact .inr ⟨batch, due, active, rfl⟩
  | _ => exact .inl rfl

theorem Consistent.outcome_unique {l : Loader κ ν} {closed : List (Batch κ)}
    {given : List (Batch κ × BatchAnswer ν)} (consistent : l.Consistent closed given) {id : Nat}
    {one two : Outcome ν} (first : (id, one) ∈ l.outcomes) (second : (id, two) ∈ l.outcomes) :
    one = two := by
  have distinct : (l.outcomes.map (·.1)).Nodup :=
    (List.nodup_append.mp consistent.staged.stage_nodup).2.1
  exact (Prod.mk.inj (List.inj_on_of_nodup_map distinct first second rfl)).2

namespace Reached

variable {l : Loader κ ν} {closed : List (Batch κ)} {given : List (Batch κ × BatchAnswer ν)}
  {batch : Batch κ} {answer : BatchAnswer ν} {index : Nat} {key : κ} {v : ν}

/-! ## Values -/

theorem outcome_run (reached : l.Reached closed given) (answered : (batch, answer) ∈ given)
    (more : List (Event κ ν)) :
    (batch.id, Outcome.ofResult batch.keys.length answer) ∈ (l.run more).outcomes :=
  reached.keeps_outcome more (reached.fetched.recorded batch answer answered)

/-- A key with a value stays cached where the value is. -/
theorem cached_run (reached : l.Reached closed given) (answered : (batch, answer) ∈ given)
    (carried : batch.keys[index]? = some key) (holds : Holds batch answer index (.ok v))
    (more : List (Event κ ν)) : (l.run more).cache.lookup key = some ⟨batch.id, index⟩ := by
  have later := reached.run more
  have wasClosed := later.consistent.answered.wasClosed batch answer
    (List.mem_append_left _ answered)
  have fine := Outcome.isFailure_of_entry_ok (entry_of_holds carried holds)
  exact later.retained.kept batch (List.mem_append_left _ wasClosed) _
    (reached.outcome_run answered more) index key carried fine

/-- A key with a value is not fetched again. -/
theorem calls_run_of_value (reached : l.Reached closed given) (answered : (batch, answer) ∈ given)
    (carried : batch.keys[index]? = some key) (holds : Holds batch answer index (.ok v))
    (more : List (Event κ ν)) :
    ∃ new, (l.run more).calls = l.calls ++ new ∧ ∀ call ∈ new, key ∉ call.keys := by
  induction more generalizing l closed given with
  | nil => exact ⟨[], (List.append_nil _).symm, by simp⟩
  | cons e rest ih =>
    obtain ⟨new, calls, without⟩ := ih (reached.step e) (List.mem_append_left _ answered)
    rcases calls_of_turn (turn_of_step l e) with same | ⟨call, due, _, added⟩
    · rw [same] at calls
      exact ⟨new, calls, without⟩
    · rw [added, List.append_assoc] at calls
      refine ⟨_, calls, ?_⟩
      intro other member
      rcases List.mem_append.mp member with isCall | old
      · obtain rfl := List.mem_singleton.mp isCall
        intro inKeys
        -- Its place in the cache is in the batch that has ended, not in the one that waits.
        have unsettled : other ∈ l.capped.unsettled := by simp [unsettled, capped, due]
        obtain ⟨position, found⟩ := List.getElem?_of_mem inKeys
        have waits := reached.consistent.cached.found other unsettled position key found
        have known : l.capped.cache.lookup key = some ⟨batch.id, index⟩ :=
          reached.cached_run answered carried holds []
        rw [known, Option.some.injEq, Slot.mk.injEq] at waits
        have ended := reached.fetched.recorded batch answer answered
        exact reached.consistent.not_ended unsettled _ (waits.1 ▸ ended)
      · exact without other old

theorem peek_run_of_value (reached : l.Reached closed given) (answered : (batch, answer) ∈ given)
    (carried : batch.keys[index]? = some key) (holds : Holds batch answer index (.ok v))
    (more : List (Event κ ν)) {seen : Except LoadError ν}
    (peeked : (l.run more).peek ⟨batch.id, index⟩ = some seen) :
    seen = .ok v ∨ (seen = .error .cancelled ∧ (l.run more).cancelled = true) := by
  cases settled : (l.run more).settled.lookup batch.id with
  | none =>
    cases stopped : (l.run more).cancelled with
    | true => exact .inr ⟨by simpa [peek, settled, stopped] using peeked.symm, rfl⟩
    | false => simp [peek, settled, stopped] at peeked
  | some outcome =>
    have later := reached.run more
    have recorded := reached.outcome_run answered more
    obtain rfl := later.consistent.outcome_unique 
      (List.mem_append_right _ (mem_of_lookup settled)) recorded
    have value := entry_of_holds carried holds
    exact .inl (by simpa [peek, settled, value] using peeked.symm)

/-- If tasks are not passed over for ever, the value is seen for ever from some moment on. -/
theorem eventually_value (reached : l.Reached closed given) (answered : (batch, answer) ∈ given)
    (carried : batch.keys[index]? = some key) (holds : Holds batch answer index (.ok v))
    (active : l.cancelled = false) {turns : Nat → Event κ ν}
    (runs : ∀ count, turns count ≠ .cancel) (fair : l.Fair turns) :
    ∃ moment, ∀ later ≥ moment, (l.after turns later).peek ⟨batch.id, index⟩ = some (.ok v) := by
  have goesOn : ∀ count, (l.after turns count).cancelled = false := after_active active runs
  have wasClosed := reached.consistent.answered.wasClosed batch answer answered
  have carries : l.capped.Carries closed ⟨batch.id, index⟩ key :=
    ⟨batch, List.mem_append_left _ wasClosed, rfl, carried⟩
  obtain ⟨stage, inStage⟩ := stage_of_carries reached.consistent.staged carries
  have begun : batch.id ∈ (l.after turns 0).idsIn stage := by cases stage <;> exact inStage
  obtain ⟨moment, _, settled⟩ := eventually_settled fair goesOn begun
  refine ⟨moment, ?_⟩
  intro later order
  let slot : Slot := ⟨batch.id, index⟩
  have stays : slot.batch ∈ (l.after turns later).idsIn .settled :=
    settled_stays goesOn settled order
  obtain ⟨seen, peeked⟩ := peek_of_settled stays
  rcases reached.peek_run_of_value answered carried holds _ peeked with rfl | ⟨_, stopped⟩
  · exact peeked
  · have active := goesOn later
    rw [after, stopped] at active
    contradiction

/-! ## Errors -/

/-- A key that waits for a call has an error from every other batch that carries it. -/
theorem failed_before (reached : l.Reached closed given) (active : l.cancelled = false)
    {call other : Batch κ} (due : call ∈ l.waiting) (inCall : key ∈ call.keys)
    (member : other ∈ l.batches closed) (differs : other ≠ call) (inOther : key ∈ other.keys) :
    ∃ answer index cause, (other, answer) ∈ given ∧ other.keys[index]? = some key ∧
      Holds other answer index (.error (.failed cause)) := by
  have consistent := reached.consistent
  have waiting : call ∈ l.capped.unsettled := by simp [unsettled, capped, due]
  have known := consistent.unsettled_batches waiting
  have apart : other.id ≠ call.id := fun same =>
    differs (consistent.staged.eq_of_id_eq member known same)
  obtain ⟨index, carried⟩ := List.getElem?_of_mem inOther
  obtain ⟨position, inPosition⟩ := List.getElem?_of_mem inCall
  have place := consistent.cached.found call waiting position key inPosition
  have elsewhere : l.capped.cache.lookup key ≠ some ⟨other.id, index⟩ := by
    intro found
    rw [place, Option.some.injEq, Slot.mk.injEq] at found
    exact apart found.1.symm
  have settled : other.id ∈ l.capped.outcomes.map (·.1) := by
    by_contra pending
    have unsettled := (consistent.mem_unsettled_iff other).mpr ⟨member, pending⟩
    exact elsewhere (consistent.cached.found other unsettled index key carried)
  obtain ⟨⟨id, outcome⟩, ended, rfl⟩ := List.mem_map.mp settled
  rcases consistent.answered.outcomes _ _ ended with ⟨_, stopped⟩ | ⟨batch, answer, origin⟩
  · have isActive : l.capped.cancelled = false := active
    rw [isActive] at stopped
    contradiction
  · obtain ⟨answered, same, rfl⟩ := origin
    have wasClosed := consistent.answered.wasClosed batch answer answered
    obtain rfl := consistent.staged.eq_of_id_eq (List.mem_append_left _ wasClosed) member same
    have fails : (Outcome.ofResult batch.keys.length answer).isFailure index = true := by
      by_contra fine
      rw [Bool.not_eq_true] at fine
      exact elsewhere (reached.retained.kept batch member _ ended index key carried fine)
    obtain ⟨e, isError⟩ := (Outcome.isFailure_iff _ _).mp fails
    have holds := holds_ofResult batch answer carried
    rw [isError] at holds
    obtain ⟨cause, rfl⟩ := holds.failed
    exact ⟨answer, index, cause, answered, carried, holds⟩

/-- A key is not cached under a batch that was settled with an error for it. -/
theorem not_cached_run (reached : l.Reached closed given) {slot : Slot}
    (carries : l.capped.Carries closed slot key) {outcome : Outcome ν}
    (ended : (slot.batch, outcome) ∈ l.outcomes) {e : LoadError}
    (isError : outcome.entry slot.index = .error e) (more : List (Event κ ν)) {other : Slot}
    (member : (key, other) ∈ (l.run more).cache) : other.batch ≠ slot.batch := by
  intro same
  have later := reached.run more
  obtain ⟨batch, known, id, holds⟩ := carries.run_capped more
  obtain ⟨batch', known', id', holds'⟩ := later.consistent.cached.carried key other member
  obtain rfl := later.consistent.staged.eq_of_id_eq known known' (by rw [id, id', same])
  have distinct := later.consistent.cached.distinctKeys batch known
  obtain ⟨inside, _⟩ := List.getElem?_eq_some_iff.mp holds
  have position : slot.index = other.index :=
    (List.getElem?_inj inside distinct).mp (holds.trans holds'.symm)
  have stays := reached.keeps_outcome more ended
  rw [← same] at stays
  have fine := later.retained.dropped key other member outcome stays
  have fails := (Outcome.isFailure_iff outcome slot.index).mpr ⟨e, isError⟩
  rw [position, fine] at fails
  contradiction

/-- Whoever has seen an error finds the key elsewhere, unless all loads are refused: it is not
cached under the batch of the error once the batch is settled. -/
theorem moved_on (reached : l.Reached closed given) {slot : Slot}
    (carries : l.capped.Carries closed slot key) {e : LoadError}
    (peeked : l.peek slot = some (.error e)) (more : List (Event κ ν)) :
    ((l.run more).cancelled = false →
      ∃ other, ((l.run more).submit key).1 = .ok other ∧ other.batch ≠ slot.batch) ∧
    (e ≠ .cancelled ∨ slot.batch ∈ l.idsIn .settled →
      ∀ other, (l.run more).cache.lookup key = some other → other.batch ≠ slot.batch) := by
  cases settled : l.settled.lookup slot.batch with
  | none =>
    cases stopped : l.cancelled with
    | false => simp [peek, settled, stopped] at peeked
    | true =>
      obtain rfl : .cancelled = e := by simpa [peek, settled, stopped] using peeked
      refine ⟨?_, ?_⟩
      · intro active
        rw [cancelled_run stopped more] at active
        contradiction
      · rintro (differs | isSettled)
        · exact absurd rfl differs
        · obtain ⟨⟨id, outcome⟩, member, rfl⟩ := List.mem_map.mp isSettled
          have absent := List.lookup_eq_none_iff.mp settled _ member
          simp at absent
  | some outcome =>
    have ended : (slot.batch, outcome) ∈ l.outcomes :=
      List.mem_append_right _ (mem_of_lookup settled)
    have isError : outcome.entry slot.index = .error e := by simpa [peek, settled] using peeked
    refine ⟨?_, fun _ other found =>
      reached.not_cached_run carries ended isError more (mem_of_lookup found)⟩
    intro active
    cases handed : ((l.run more).submit key).1 with
    | error refusal =>
      rw [(submit_error handed).2] at active
      contradiction
    | ok other =>
      refine ⟨other, rfl, ?_⟩
      have cached := cache_of_submit handed
      have follows : l.run (more ++ [.submit key]) = ((l.run more).submit key).2 :=
        run_append l more [.submit key]
      rw [← follows] at cached
      exact reached.not_cached_run carries ended isError _ cached

end Reached

/-- In every run: once the fetcher has given a key a value, the key is in no later call, and every
later load that is not refused sees the value, in time if tasks are not passed over for ever. The
fetcher is called for a key only if every other batch that carries the key was answered with an
error for it. A load that sees an error is followed by loads that go into other batches, and the
key is not cached under the batch that was settled with the error. -/
theorem memoization_and_retry (capacity : Nat) :
    let start : Loader κ ν := empty capacity
    (∀ events batch answer index key v, (batch, answer) ∈ start.answers events →
      batch.keys[index]? = some key → Holds batch answer index (.ok v) →
      let l := start.run events
      let slot : Slot := ⟨batch.id, index⟩
      (∀ more,
        let later := l.run more
        (∃ new, later.calls = l.calls ++ new ∧ ∀ call ∈ new, key ∉ call.keys) ∧
        (later.cancelled = false → later.submit key = (.ok slot, later)) ∧
        (∀ seen, later.peek slot = some seen →
          seen = .ok v ∨ (seen = .error .cancelled ∧ later.cancelled = true))) ∧
      (∀ turns, l.cancelled = false → (∀ count, turns count ≠ .cancel) → l.Fair turns →
        ∃ moment, ∀ later ≥ moment, (l.after turns later).peek slot = some (.ok v))) ∧
    (∀ before e call key,
      (start.run (before ++ [e])).calls = (start.run before).calls ++ [call] → key ∈ call.keys →
      ∀ other ∈ (start.run before).batches (start.closedBatches before),
        other ≠ call → key ∈ other.keys →
        ∃ answer index cause, (other, answer) ∈ start.answers before ∧
          other.keys[index]? = some key ∧ Holds other answer index (.error (.failed cause))) ∧
    (∀ before after key slot e, ((start.run before).submit key).1 = .ok slot →
      let l := start.run (before ++ .submit key :: after)
      l.peek slot = some (.error e) →
      ∀ more,
        let later := l.run more
        (later.cancelled = false →
          ∃ other, (later.submit key).1 = .ok other ∧ other.batch ≠ slot.batch) ∧
        (e ≠ .cancelled ∨ slot.batch ∈ l.idsIn .settled →
          ∀ other, later.cache.lookup key = some other → other.batch ≠ slot.batch)) := by
  intro start
  refine ⟨?_, ?_, ?_⟩
  · intro events batch answer index key v answered carried holds l slot
    have reached : l.Reached (start.closedBatches events) (start.answers events) :=
      reached_of_run capacity events
    refine ⟨?_, fun turns active runs fair =>
      reached.eventually_value answered carried holds active runs fair⟩
    intro more later
    refine ⟨reached.calls_run_of_value answered carried holds more, ?_,
      fun seen peeked => reached.peek_run_of_value answered carried holds more peeked⟩
    intro active
    have known : later.cache.lookup key = some slot :=
      reached.cached_run answered carried holds more
    simp [submit, active, known]
  · intro before e call key calls inCall other member differs inOther
    have reached := reached_of_run (κ := κ) (ν := ν) capacity before
    rw [run_append] at calls
    rcases calls_of_turn (turn_of_step (start.run before) e) with same | ⟨due, waits, active, added⟩
    · rw [run, List.foldl_cons, List.foldl_nil, same] at calls
      simp at calls
    · rw [run, List.foldl_cons, List.foldl_nil, added] at calls
      obtain rfl : due = call := by simpa using calls
      exact reached.failed_before active waits inCall member differs inOther
  · intro before after key slot e handed l peeked more
    have reached : l.Reached _ _ := reached_of_run capacity (before ++ .submit key :: after)
    exact reached.moved_on (carries_of_load capacity before handed after) peeked more

/-- Key 1 fails in a batch that brings a value for key 2. It is fetched again, key 2 is not. -/
theorem memoization_and_retry_of_failed_key :
    let answer : BatchAnswer Nat := .ok [.error (.backend "down"), .ok 20]
    let before : List (Event Nat Nat) :=
      [.submit 1, .submit 2, .begin 0, .complete 0 answer, .publish 0]
    let again : List (Event Nat Nat) := [.submit 1, .submit 3]
    let start : Loader Nat Nat := empty 2
    let l := start.run before
    let later := l.run again
    later.submit 2 = (.ok ⟨0, 1⟩, later) ∧
    (start.run ((before ++ again) ++ [.begin 1])).calls =
      (start.run (before ++ again)).calls ++ [⟨1, [1, 3]⟩] ∧
    (∃ answer index cause, (⟨0, [1, 2]⟩, answer) ∈ start.answers (before ++ again) ∧
      [1, 2][index]? = some 1 ∧ Holds ⟨0, [1, 2]⟩ answer index (.error (.failed cause))) ∧
    (∃ other, (l.submit 1).1 = .ok other ∧ other.batch ≠ 0) := by
  intro answer before again start l later
  obtain ⟨values, retries, errors⟩ := memoization_and_retry (κ := Nat) (ν := Nat) 2
  have given : (⟨0, [1, 2]⟩, answer) ∈ start.answers before := .head _
  have value : Holds ⟨0, [1, 2]⟩ answer 1 (.ok 20) := .inr (.inr ⟨_, .ok 20, rfl, rfl, rfl, rfl⟩)
  obtain ⟨runs, _⟩ := values before ⟨0, [1, 2]⟩ answer 1 2 20 given rfl value
  have active : later.cancelled = false := by decide
  have calls : (start.run ((before ++ again) ++ [.begin 1])).calls =
      (start.run (before ++ again)).calls ++ [⟨1, [1, 3]⟩] := by decide
  have carried : ⟨0, [1, 2]⟩ ∈
      (start.run (before ++ again)).batches (start.closedBatches (before ++ again)) := by decide
  have handed : ((start.run []).submit 1).1 = .ok ⟨0, 0⟩ := by rfl
  have peeked : l.peek ⟨0, 0⟩ = some (.error (.failed (.backend "down"))) := by rfl
  have goesOn : l.cancelled = false := by decide
  have kept := (runs again).2.1 active
  refine ⟨kept, calls, ?_, ?_⟩
  · exact retries (before ++ again) (.begin 1) ⟨1, [1, 3]⟩ 1 calls (by decide) ⟨0, [1, 2]⟩ carried
      (by decide) (by decide)
  · have elsewhere := errors [] [.submit 2, .begin 0, .complete 0 answer, .publish 0] 1 ⟨0, 0⟩ _
      handed peeked []
    have noMore : ∀ k : Loader Nat Nat, k.run [] = k := fun _ => rfl
    rw [noMore] at elsewhere
    exact elsewhere.1 goesOn

end Loader

end Transit
