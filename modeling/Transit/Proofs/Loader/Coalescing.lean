import Transit.Proofs.Loader.Queue
import Transit.Proofs.Loader.Relabelling
import Transit.Proofs.Loader.Transparency
set_option autoImplicit false

/-!
# Coalescing

A load of new keys calls the fetcher as often as its distinct keys need, whatever the other keys of
the list repeat. On a clock the calls are made in the order of the keys (`Clocked.load_coalesces`);
in other orders of turns the same batches are called, each once.
-/

namespace Transit

namespace Loader

variable {κ ν : Type} [DecidableEq κ] [Inhabited ν]

/-! ## Any order of turns -/

/-- Unless keys are asked for, no turn loses a batch that has been called or will be, nor adds
one. -/
theorem queue_turn {l next : Loader κ ν} {e : Event κ ν} {closed shut : List (Batch κ)}
    {given new : List (Batch κ × BatchAnswer ν)} (consistent : l.Consistent closed given)
    (turn : Turn l e shut new next) (active : l.cancelled = false)
    (noSubmit : ∀ key, e ≠ .submit key) :
    (next.calls ++ next.gathered).Perm (l.calls ++ l.gathered) := by
  cases turn with
  | rest e => exact .refl _
  | enter key => exact absurd rfl (noSubmit key)
  | fill key => exact absurd rfl (noSubmit key)
  | expire batch isOpen => simp [close, gathered, isOpen]
  | skip batch due stopped =>
    rw [active] at stopped
    contradiction
  | call batch due =>
    have others : l.waiting.filter (·.id != batch.id) = l.waiting.erase batch := by
      have distinct := consistent.staged.waiting_nodup
      rw [(List.Nodup.of_map _ distinct).erase_eq_filter]
      refine List.filter_congr ?_
      intro other waits
      rw [Bool.eq_iff_iff, bne_iff_ne, bne_iff_ne]
      exact not_congr ⟨fun same => List.inj_on_of_nodup_map distinct waits due same, congrArg _⟩
    simp only [gathered, unqueue, others, List.append_assoc, List.singleton_append]
    exact ((List.perm_cons_erase due).symm.append_right _).append_left l.calls
  | answer batch result called => exact .refl _
  | giveUp batch called stopped => exact .refl _
  | publish batch outcome ended => exact .refl _
  | cancel => exact .refl _

theorem queue_run {l : Loader κ ν} {closed : List (Batch κ)}
    {given : List (Batch κ × BatchAnswer ν)} (consistent : l.Consistent closed given)
    (active : l.cancelled = false) {events : List (Event κ ν)}
    (noSubmit : ∀ key, .submit key ∉ events) (noCancel : .cancel ∉ events) :
    (l.run events).cancelled = false ∧
      ((l.run events).calls ++ (l.run events).gathered).Perm (l.calls ++ l.gathered) := by
  induction events generalizing l closed given with
  | nil => exact ⟨active, .refl _⟩
  | cons e rest ih =>
    have turn := turn_of_step l e
    have next := queue_turn consistent turn active fun key same => noSubmit key (by simp [same])
    have activeNext := (cancelled_turn turn fun same => noCancel (by simp [same])).trans active
    obtain ⟨still, others⟩ := ih (consistent.turn turn) activeNext
      (fun key member => noSubmit key (List.mem_cons_of_mem _ member))
      fun member => noCancel (List.mem_cons_of_mem _ member)
    exact ⟨still, others.trans next⟩

theorem cancelled_submitAll (l : Loader κ ν) (keys : List κ) :
    (l.submitAll keys).2.cancelled = l.cancelled := by
  induction keys generalizing l with
  | nil => rfl
  | cons key rest ih =>
    exact (ih (l.submit key).2).trans (cancelled_turn (turn_of_step l (.submit key)) (by simp))

theorem Consistent.id_lt_nextId {l : Loader κ ν} {closed : List (Batch κ)}
    {given : List (Batch κ × BatchAnswer ν)} (consistent : l.Consistent closed given)
    {batch : Batch κ} (member : batch ∈ l.calls ++ l.waiting) : batch.id < l.nextId := by
  refine consistent.staged.fresh batch (List.mem_append_left _ ?_)
  rcases List.mem_append.mp member with called | waits
  · exact consistent.called.wasClosed batch called
  · exact consistent.staged.wasClosed batch (by simp [waits])

omit [DecidableEq κ] in
/-- Of batches of which the old ones have numbers below `first` and the new ones do not, the new
ones are those with such a number. -/
theorem filter_first_le {first : Nat} {old new : List (Batch κ)}
    (older : ∀ batch ∈ old, batch.id < first) (newer : ∀ batch ∈ new, first ≤ batch.id) :
    (old ++ new).filter (first ≤ ·.id) = new := by
  have noneOlder : old.filter (first ≤ ·.id) = [] :=
    List.filter_eq_nil_iff.mpr fun batch member => by simpa using older batch member
  have allNewer : new.filter (first ≤ ·.id) = new :=
    List.filter_eq_self.mpr fun batch member => by simpa using newer batch member
  rw [List.filter_append, noneOlder, allNewer, List.nil_append]

/-- Whatever turns are taken after some new keys have been asked for, the calls are for batches of
the plan, each at most once, and all of them have been made when every slot shows something. -/
theorem calls_of_turns {l : Loader κ ν} {closed : List (Batch κ)}
    {given : List (Batch κ × BatchAnswer ν)} (consistent : l.Consistent closed given)
    (active : l.cancelled = false) (noOpen : l.openBatch = none) {keys : List κ}
    (unknown : ∀ key ∈ keys, l.cache.lookup key = none) :
    ∃ batches, Coalesced l.capacity l.nextId keys batches ∧
      ∀ after : List (Event κ ν), (∀ key, .submit key ∉ after) → .cancel ∉ after →
        let ended := (l.submitAll keys).2.run after
        let made := ended.calls.filter (l.nextId ≤ ·.id)
        made.Subperm batches ∧
          (ended.peekAll? (l.submitAll keys).1 ≠ none → made.Perm batches) := by
  obtain ⟨batches, gathered, coalesced⟩ :=
    coalesced_of_submitAll active consistent.staged.positive noOpen unknown
  refine ⟨batches, coalesced, ?_⟩
  intro after noSubmit noCancel ended made
  have calm := (cancelled_submitAll l keys).trans active
  have submitted : (l.submitAll keys).2.Consistent (closed ++ l.closedBatches (keys.map .submit))
      (given ++ l.answers (keys.map .submit)) := by
    rw [submitAll_run]
    exact consistent.run (keys.map .submit)
  obtain ⟨still, kept⟩ := queue_run submitted calm noSubmit noCancel
  have split : (made ++ ended.gathered.filter (l.nextId ≤ ·.id)).Perm batches := by
    have fewer := kept.filter (l.nextId ≤ ·.id)
    rwa [calls_submitAll, gathered, ← List.append_assoc, List.filter_append, filter_first_le
      (fun _ => consistent.id_lt_nextId) (fun _ => coalesced.first_le)] at fewer
  refine ⟨?_, ?_⟩
  · exact (List.sublist_append_left _ _).subperm.trans split.subperm
  · intro seen
    have none : ended.gathered.filter (l.nextId ≤ ·.id) = [] := by
      rw [List.eq_nil_iff_forall_not_mem]
      intro batch left
      obtain ⟨all, peeked⟩ := Option.ne_none_iff_exists'.mp seen
      have planned : batch ∈ (l.submitAll keys).2.gathered := by
        rw [gathered]
        exact List.mem_append_right _ (split.mem_iff.mp (List.mem_append_right _ left))
      obtain ⟨waits, new⟩ := List.mem_filter.mp left
      rcases gathered_submitAll planned with before | ⟨slot, handed, same⟩
      · rw [Loader.gathered, noOpen, Option.toList_none, List.append_nil] at before
        have older := consistent.id_lt_nextId (List.mem_append_right _ before)
        exact Nat.not_le_of_lt older (by simpa using new)
      · obtain ⟨value, found⟩ := peek_of_peekAll peeked handed
        have staged := (submitted.run after).staged
        rw [peek_of_gathered staged still waits same] at found
        contradiction
    rwa [none, List.append_nil] at split

end Loader

namespace Clocked

variable {κ ν : Type}

/-- A fetcher that has a value for every key answers key by key once nobody looks at the values. -/
theorem map_start (capacity wait : Nat) {fetch : Nat → List κ → Option (BatchAnswer ν)}
    (answers : ∀ call keys, ∃ values : List ν, values.length = keys.length ∧
      fetch call keys = some (.ok (values.map .ok))) :
    (start capacity wait fetch).map (fun _ => ()) = start capacity wait fun _ keys =>
      some (BatchAnswer.pointwise (fun _ => .ok ()) keys) := by
  have alike : (fun call keys => (fetch call keys).map (BatchAnswer.map fun _ => ())) =
      fun _ keys => some (BatchAnswer.pointwise (fun _ => .ok ()) keys) := by
    funext call keys
    obtain ⟨values, length, answer⟩ := answers call keys
    rw [answer, Option.map_some, BatchAnswer.map, BatchAnswer.pointwise]
    simp only [Except.map, List.map_map, Function.comp_def, List.map_const', length]
  simp only [map, start, alike, List.map_nil]
  rfl

/-- Results that are values once nobody looks at them are values. -/
theorem values_of_map {results : List (Except LoadError ν)} {keys : List κ}
    (same : results.map (Except.map fun _ => ()) =
      keys.map fun _ => LoadError.ofEntry (.ok ())) :
    ∃ values : List ν, results = values.map .ok ∧ values.length = keys.length := by
  induction results generalizing keys with
  | nil => exact ⟨[], rfl, by simpa using congrArg List.length same⟩
  | cons result rest ih =>
    cases keys with
    | nil => simp at same
    | cons key others =>
      obtain ⟨first, tail⟩ := List.cons.inj same
      obtain ⟨values, rfl, length⟩ := ih tail
      cases result with
      | error e => simp [Except.map, LoadError.ofEntry, Except.mapError] at first
      | ok value => exact ⟨value :: values, rfl, congrArg (· + 1) length⟩

variable [DecidableEq κ] [Inhabited ν]

theorem Sound.ask {t : Clocked κ ν} {value : κ → Except LookupError ν} {closed : List (Batch κ)}
    (sound : t.Sound value closed []) (rested : t.Rested) (request : Request κ) :
    (∃ later, (t.ask request).Sound value later []) ∧ (t.ask request).Rested ∧
      (t.ask request).loader.capacity = t.loader.capacity := by
  cases request with
  | load keys =>
    exact ⟨(sound.load keys).2, sound.load_rested rested.asked keys, sound.load_capacity keys⟩
  | staged groups =>
    exact ⟨(sound.staged groups).2, sound.staged_rested groups, sound.staged_capacity groups⟩

/-- After any requests the runtime is sound and rests, with the capacity that it began with. -/
theorem Sound.asks {t : Clocked κ ν} {value : κ → Except LookupError ν} {closed : List (Batch κ)}
    (sound : t.Sound value closed []) (rested : t.Rested) (requests : List (Request κ)) :
    (∃ later, (requests.foldl Clocked.ask t).Sound value later []) ∧
      (requests.foldl Clocked.ask t).Rested ∧
      (requests.foldl Clocked.ask t).loader.capacity = t.loader.capacity := by
  induction requests generalizing t closed with
  | nil => exact ⟨⟨closed, sound⟩, rested, rfl⟩
  | cons request rest ih =>
    obtain ⟨⟨later, next⟩, restedNext, capacity⟩ := sound.ask rested request
    obtain ⟨ended, restedLast, capacityLast⟩ := ih next restedNext
    exact ⟨ended, restedLast, capacityLast.trans capacity⟩

theorem map_asks {μ : Type} [Inhabited μ] {label : ν → μ} (plain : label default = default)
    (t : Clocked κ ν) (requests : List (Request κ)) :
    requests.foldl ask (t.map label) = (requests.foldl ask t).map label := by
  induction requests generalizing t with
  | nil => rfl
  | cons request rest ih =>
    have first : (t.map label).ask request = (t.ask request).map label := by
      cases request with
      | load keys => exact congrArg Prod.snd (map_load t plain keys)
      | staged groups => exact congrArg Prod.snd (map_staged t plain groups)
    rw [List.foldl_cons, List.foldl_cons, first, ih]

/-- Loads of new keys while no batch is open call the fetcher as often as their distinct keys need.
On a clock, after any other loads, for every wait and every fetcher that has a value for each key:
the load gets values, and its calls carry each distinct key once, in the order of its first
occurrence, in batches that are full but for the last. In any order of turns, and whatever the
fetcher answers: the calls are for these batches, each at most once, and for all of them when the
load has been answered. -/
theorem load_coalesces (capacity : Nat) (positive : 1 ≤ capacity) (keys : List κ) :
    (∀ wait (fetch : Nat → List κ → Option (BatchAnswer ν)) (earlier : List (Request κ)),
      (∀ call keys, ∃ values : List ν, values.length = keys.length ∧
        fetch call keys = some (.ok (values.map .ok))) →
      let t := earlier.foldl ask (start capacity wait fetch)
      t.loader.openBatch = none → (∀ key ∈ keys, t.loader.cache.lookup key = none) →
      (∃ values : List ν, (t.load keys).1 = values.map .ok ∧ values.length = keys.length) ∧
      ∃ batches, (t.load keys).2.loader.calls = t.loader.calls ++ batches ∧
        Loader.Coalesced capacity t.loader.nextId keys batches) ∧
    (∀ before : List (Loader.Event κ ν),
      let l := (Loader.empty capacity).run before
      l.cancelled = false → l.openBatch = none → (∀ key ∈ keys, l.cache.lookup key = none) →
      ∃ batches, Loader.Coalesced capacity l.nextId keys batches ∧
        ∀ after : List (Loader.Event κ ν), (∀ key, .submit key ∉ after) → .cancel ∉ after →
          let ended := (l.submitAll keys).2.run after
          let made := ended.calls.filter (l.nextId ≤ ·.id)
          made.Subperm batches ∧
            (ended.peekAll? (l.submitAll keys).1 ≠ none → made.Perm batches)) := by
  refine ⟨?_, ?_⟩
  · intro wait fetch earlier answers t noOpen unknown
    have begun := sound_start positive wait (fun _ : κ => Except.ok ())
    have atRest : Rested (start capacity wait fun _ (keys : List κ) =>
        some (BatchAnswer.pointwise (fun _ => .ok ()) keys)) := ⟨rfl, by simp [AllAsked, start]⟩
    obtain ⟨⟨closed, sound⟩, rested, room⟩ := begun.asks atRest earlier
    have plain : (fun _ : ν => ()) default = default := rfl
    rw [← map_start capacity wait answers, map_asks plain] at sound rested room
    have results := (sound.load keys).1
    obtain ⟨batches, calls, coalesced⟩ := sound.calls_of_load rested noOpen unknown
    rw [map_load _ plain] at results calls
    rw [room] at coalesced
    exact ⟨values_of_map results, batches, calls, coalesced⟩
  · intro before l active noOpen unknown
    have consistent := Loader.consistent_of_run (ν := ν) capacity positive before
    have room : l.capacity = capacity := Loader.capacity_run _ before
    rw [← room]
    exact Loader.calls_of_turns consistent active noOpen unknown

/-- Five keys, three of them distinct, after another key: two batches of two on a clock, and the
same two in an order of turns in which the second is called first and neither has an answer. -/
theorem load_coalesces_of_repeated_keys :
    let keys := [5, 3, 5, 7, 3]
    let fetch : Nat → List Nat → Option (BatchAnswer Nat) := fun _ keys =>
      some (.ok ((keys.map (· * 2)).map .ok))
    let t := [Request.load [1]].foldl ask (start 2 10 fetch)
    let l : Loader Nat Nat := (Loader.empty 2).run [.submit 1, .expire 0]
    let ended := (l.submitAll keys).2.run [.begin 1, .expire 2, .begin 2, .begin 0,
      .complete 2 (.ok []), .publish 2, .complete 1 (.error (.backend "down")), .publish 1]
    (∃ batches, (t.load keys).2.loader.calls = [⟨0, [1]⟩] ++ batches ∧
      batches.length = 2 ∧ batches.flatMap (·.keys) = [5, 3, 7]) ∧
    ∃ batches, (ended.calls.filter (1 ≤ ·.id)).Perm batches ∧
      batches.flatMap (·.keys) = [5, 3, 7] := by
  intro keys fetch
  dsimp only
  obtain ⟨clock, turns⟩ := load_coalesces (ν := Nat) 2 (by decide) keys
  have distinct : keys.eraseDups = [5, 3, 7] := by decide
  refine ⟨?_, ?_⟩
  · have answers : ∀ call keys, ∃ values : List Nat, values.length = keys.length ∧
        fetch call keys = some (.ok (values.map .ok)) :=
      fun _ keys => ⟨keys.map (· * 2), List.length_map _, rfl⟩
    have earlier : ([Request.load [1]].foldl ask (start 2 10 fetch)).loader.calls =
      [⟨0, [1]⟩] := by decide
    obtain ⟨_, batches, calls, coalesced⟩ :=
      clock 10 fetch [.load [1]] answers (by decide) (by decide)
    rw [earlier] at calls
    have two : keys.toFinset.card ⌈/⌉ 2 = 2 := by decide
    exact ⟨batches, calls, coalesced.count.trans two, coalesced.carried.trans distinct⟩
  · obtain ⟨batches, coalesced, each⟩ := turns [.submit 1, .expire 0] rfl rfl (by decide)
    have called := each [.begin 1, .expire 2, .begin 2, .begin 0, .complete 2 (.ok []), .publish 2,
      .complete 1 (.error (.backend "down")), .publish 1] (by simp) (by simp)
    refine ⟨batches, called.2 ?_, coalesced.carried.trans distinct⟩
    rw [← Option.isSome_iff_ne_none]
    decide

end Clocked

end Transit
