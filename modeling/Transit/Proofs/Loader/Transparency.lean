import Transit.Proofs.Loader.Rounds
set_option autoImplicit false

/-!
# Batching is invisible

Whoever loads a key cannot tell which batch carried it. `batching_invisible` says so of whole loads
on a clock, of endless fair turns in any order, and, for fetchers that answer as they like, of what
a single load may see.
-/

namespace Transit

namespace Clocked

variable {κ ν : Type} [DecidableEq κ] [Inhabited ν]

/-- What the main task asks for: keys of its own, or those of clients that start after delays. -/
inductive Request (κ : Type)
  | load (keys : List κ)
  | staged (groups : List (Nat × List κ))

def ask (t : Clocked κ ν) : Request κ → Clocked κ ν
  | .load keys => (t.load keys).2
  | .staged groups => (t.staged groups).2

theorem sound_of_requests {capacity : Nat} (positive : 1 ≤ capacity) (wait : Nat)
    (value : κ → Except LookupError ν) (requests : List (Request κ)) :
    ∃ closed, (requests.foldl ask (start capacity wait fun _ keys =>
      some (BatchAnswer.pointwise value keys))).Sound value closed [] := by
  have begun := sound_start positive wait value
  generalize (start capacity wait fun _ keys => some (BatchAnswer.pointwise value keys)) = t at *
  generalize ([] : List (Batch κ)) = closed at begun
  induction requests generalizing t closed with
  | nil => exact ⟨closed, begun⟩
  | cons request rest ih =>
    cases request with
    | load keys =>
      obtain ⟨later, next⟩ := (begun.load keys).2
      exact ih _ later next
    | staged groups =>
      obtain ⟨later, next⟩ := (begun.staged groups).2
      exact ih _ later next

end Clocked

namespace Loader

variable {κ ν : Type} [DecidableEq κ] [Inhabited ν]

/-- Loads cannot see how their keys were put into batches. If the fetcher answers key by key and
nothing is cancelled, loads return the values of their keys, position by position: on a clock, after
any other loads, for every wait; and in any fair order of turns. Whatever the fetcher answers and
in whatever order turns are taken, a load sees cancellation or what the one answer to the batch that
carries its key holds at the position of the key. -/
theorem batching_invisible (capacity : Nat) (positive : 1 ≤ capacity)
    (value : κ → Except LookupError ν) :
    (∀ wait (earlier : List (Clocked.Request κ)) keys groups,
      let t := earlier.foldl Clocked.ask (Clocked.start capacity wait fun _ keys =>
        some (BatchAnswer.pointwise value keys))
      (t.load keys).1 = keys.map (fun key => LoadError.ofEntry (value key)) ∧
      (t.staged groups).1 =
        groups.map fun group => group.2.map fun key => LoadError.ofEntry (value key)) ∧
    (∀ turns : Nat → Event κ ν, (empty capacity).Fair turns → (∀ count, turns count ≠ .cancel) →
      (empty capacity).AnsweredBy turns value →
      ∀ loads : List (Nat × κ), (∀ load ∈ loads, turns load.1 = .submit load.2) →
      let slots := loads.map fun load => (((empty capacity).after turns load.1).submit load.2).1
      let values := loads.map fun load => LoadError.ofEntry (value load.2)
      (∃ moment, ∀ later ≥ moment,
        ((empty capacity).after turns later).peekAll? slots = some values) ∧
      ∀ later, (∀ load ∈ loads, load.1 < later) → ∀ seen,
        ((empty capacity).after turns later).peekAll? slots = some seen → seen = values) ∧
    (∀ (before : List (Event κ ν)) (key : κ) (after : List (Event κ ν)),
      let submitted := (((empty capacity : Loader κ ν).run before).submit key).1
      let events := before ++ .submit key :: after
      (∀ e, submitted = .error e → e = .cancelled) ∧
      ∀ slot, submitted = .ok slot → ∀ seen,
        ((empty capacity : Loader κ ν).run events).peek slot = some seen →
        seen = .error .cancelled ∨
        ∃ batch answer, batch.id = slot.batch ∧ batch.keys.Nodup ∧
          batch.keys[slot.index]? = some key ∧ Holds batch answer slot.index seen ∧
          (batch, answer) ∈ (empty capacity : Loader κ ν).answers events ∧
          ∀ other ∈ (empty capacity : Loader κ ν).answers events,
            other.1.id = slot.batch → other = (batch, answer)) := by
  refine ⟨?_, ?_, ?_⟩
  · intro wait earlier keys groups t
    obtain ⟨closed, sound⟩ := Clocked.sound_of_requests positive wait value earlier
    exact ⟨(sound.load keys).1, (sound.staged groups).1⟩
  · intro turns fair runs answered loads submitted
    exact loads_of_fair positive fair runs answered loads submitted
  · intro before key after submitted events
    refine ⟨fun e denied => (submit_error denied).1, ?_⟩
    intro slot handed seen peeked
    exact load_of_run capacity positive before key after slot handed seen peeked

/-- Loads of 1, 9 and 1 again: on a clock, by turns that come to rest, and from a fetcher that gives
two keys one entry. -/
theorem batching_invisible_of_three_keys :
    let value : Nat → Except LookupError Nat := fun key =>
      if key = 9 then .error (.backend "down") else .ok (key * 2)
    let turns : Nat → Event Nat Nat := fun count =>
      ([.submit 1, .submit 9, .expire 0, .begin 0, .complete 0 (.ok [value 1, value 9]), .publish 0,
        .submit 1][count]?).getD (.expire 0)
    let short : List (Event Nat Nat) :=
      [.expire 0, .begin 0, .complete 0 (.ok [.ok 18]), .publish 0]
    1 ≤ 2 ∧
    ((Clocked.start 2 10 fun _ keys => some (BatchAnswer.pointwise value keys)).load [1, 9, 1]).1 =
      [.ok 2, .error (.failed (.backend "down")), .ok 2] ∧
    (∃ moment, ∀ later ≥ moment, ((empty 2).after turns later).peekAll?
      [.ok ⟨0, 0⟩, .ok ⟨0, 1⟩, .ok ⟨0, 0⟩] =
        some [.ok 2, .error (.failed (.backend "down")), .ok 2]) ∧
    ∃ batch answer, batch.keys[1]? = some 9 ∧ Holds batch answer 1 (.ok 0) ∧
      (batch, answer) ∈ (empty 2 : Loader Nat Nat).answers (.submit 1 :: .submit 9 :: short) := by
  intro value turns short
  obtain ⟨clock, fair, any⟩ := batching_invisible 2 (by decide) value
  let ended : Loader Nat Nat := { (empty 2) with
    cache := [(1, ⟨0, 0⟩)], nextId := 1, calls := [⟨0, [1, 9]⟩]
    settled := [(0, .values [.ok 2, .error (.backend "down")])] }
  have rest : ∀ later ≥ 7, (empty 2).after turns later = ended := by
    intro later order
    induction order with
    | refl => rfl
    | @step later order ih =>
      have idle : turns later = .expire 0 := by
        have outside : 7 ≤ later := order
        simp [turns, outside]
      rw [after_succ, ih, idle]
      rfl
  have atRest : (empty 2).Fair turns := by
    refine fair_of_rest 7 ?_
    intro later order stage unsettled
    rw [rest later order]
    cases stage <;> first | rfl | exact absurd rfl unsettled
  refine ⟨by decide, (clock 10 [] [1, 9, 1] []).1, ?_, ?_⟩
  · refine (fair turns atRest ?_ ?_ [(0, 1), (1, 9), (6, 1)] ?_).1
    · intro count
      match count with
      | 0 | 1 | 2 | 3 | 4 | 5 | 6 => simp [turns]
      | count + 7 => simp [turns]
    · intro count id answer completes batch called _
      match count with
      | 4 =>
        have running : ((empty 2).after turns 4).running = [⟨0, [1, 9]⟩] := rfl
        rw [running, List.mem_singleton] at called
        subst called
        exact (Event.complete.inj completes).2.symm
      | 0 | 1 | 2 | 3 | 5 | 6 => simp [turns] at completes
      | count + 7 => simp [turns] at completes
    · simp [turns]
  · have sound := (any [.submit 1] 9 short).2 ⟨0, 1⟩ rfl (.ok 0) rfl
    rcases sound with cancelled | ⟨batch, answer, _, _, carried, holds, member, _⟩
    · contradiction
    · exact ⟨batch, answer, carried, holds, member⟩

end Loader

end Transit
