import Transit.Proofs.Loader.Consistent
set_option autoImplicit false

/-!
# What a slot delivers

A slot carries its key from the turn that hands it out. What is seen in it, unless it is
cancellation, comes from the one answer to the batch that carries the key: the entry at the key's
own position, the empty value if the answer has the wrong length, or the error of the whole batch.
-/

namespace Transit

/-- A batch is answered key by key. -/
def BatchAnswer.pointwise {κ ν : Type} (value : κ → Except LookupError ν) (keys : List κ) :
    BatchAnswer ν :=
  .ok (keys.map value)

/-- What a caller gets who asks for a key with this value. -/
def LoadError.ofEntry {ν : Type} (entry : Except LookupError ν) : Except LoadError ν :=
  entry.mapError .failed

namespace Outcome

variable {ν : Type} [Inhabited ν]

theorem entry_ofResult_of_length_ne {keys : Nat} {entries : List (Except LookupError ν)}
    (differs : entries.length ≠ keys) (index : Nat) :
    (ofResult keys (.ok entries)).entry index = .ok default := by
  have notEqual : (entries.length == keys) = false := beq_eq_false_iff_ne.mpr differs
  simp only [ofResult, notEqual, Bool.false_eq_true, if_false, entry]
  by_cases inside : index < keys
  · rw [List.getElem?_replicate_of_lt inside]
  · rw [List.getElem?_eq_none (by simpa using inside)]

theorem entry_ofResult_of_length_eq {keys index : Nat} {entries : List (Except LookupError ν)}
    {found : Except LookupError ν} (equal : entries.length = keys)
    (holds : entries[index]? = some found) :
    (ofResult keys (.ok entries)).entry index = LoadError.ofEntry found := by
  have isEqual : (entries.length == keys) = true := beq_iff_eq.mpr equal
  simp only [ofResult, isEqual, if_true, entry, holds]
  cases found <;> rfl

end Outcome

namespace Loader

variable {κ ν : Type}

/-- Taking out the first of some batches leaves the others. -/
theorem filter_ne_of_nodup {batch : Batch κ} {rest : List (Batch κ)}
    (distinct : ((batch :: rest).map (·.id)).Nodup) : rest.filter (·.id != batch.id) = rest := by
  rw [List.map_cons, List.nodup_cons] at distinct
  rw [List.filter_eq_self]
  intro other member
  have differs : other.id ≠ batch.id := fun same =>
    distinct.1 (same ▸ List.mem_map_of_mem member)
  simpa using differs

/-- Slots that carry these keys, position by position. -/
def Handed (l : Loader κ ν) (closed : List (Batch κ)) (slots : List (Except LoadError Slot))
    (keys : List κ) : Prop :=
  List.Forall₂ (fun given key => ∃ slot, given = .ok slot ∧ l.Carries closed slot key) slots keys

theorem Handed.mono {l next : Loader κ ν} {closed later : List (Batch κ)}
    {slots : List (Except LoadError Slot)} {keys : List κ} (handed : l.Handed closed slots keys)
    (kept : ∀ slot key, l.Carries closed slot key → next.Carries later slot key) :
    next.Handed later slots keys := by
  induction handed with
  | nil => exact .nil
  | cons first _ ih =>
    obtain ⟨slot, given, carries⟩ := first
    exact .cons ⟨slot, given, kept _ _ carries⟩ ih

section
variable [Inhabited ν]

/-- What the answer to a batch holds for one position. -/
def Holds (batch : Batch κ) (answer : BatchAnswer ν) (index : Nat) (seen : Except LoadError ν) :
    Prop :=
  (∃ e, answer = .error e ∧ seen = .error (.failed e)) ∨
  (∃ entries, answer = .ok entries ∧ entries.length ≠ batch.keys.length ∧ seen = .ok default) ∨
  (∃ entries entry, answer = .ok entries ∧ entries.length = batch.keys.length ∧
    entries[index]? = some entry ∧ seen = LoadError.ofEntry entry)

/-- Wherever the batch carries the key, the answer holds this value for it. -/
def Gives (batch : Batch κ) (answer : BatchAnswer ν) (key : κ) (value : Except LookupError ν) :
    Prop :=
  ∀ index seen, batch.keys[index]? = some key → Holds batch answer index seen →
    seen = LoadError.ofEntry value

theorem gives_of_entries {batch : Batch κ} {entries : List (Except LookupError ν)} {key : κ}
    {value : Except LookupError ν} (sized : entries.length = batch.keys.length)
    (own : ∀ index : Nat, batch.keys[index]? = some key → entries[index]? = some value) :
    Gives batch (.ok entries) key value := by
  intro index seen carried holds
  rcases holds with ⟨e, isError, _⟩ | ⟨others, isOk, differs, _⟩ |
    ⟨others, entry, isOk, _, found, rfl⟩
  · cases isError
  · obtain rfl := Except.ok.inj isOk
    exact absurd sized differs
  · obtain rfl := Except.ok.inj isOk
    rw [own index carried] at found
    obtain rfl := Option.some.inj found
    rfl

theorem gives_pointwise (batch : Batch κ) (value : κ → Except LookupError ν) (key : κ) :
    Gives batch (BatchAnswer.pointwise value batch.keys) key (value key) := by
  refine gives_of_entries (List.length_map value) ?_
  intro index carried
  rw [List.getElem?_map, carried]
  rfl

theorem peekAll_cons {l : Loader κ ν} {slot : Slot} {slots : List (Except LoadError Slot)}
    {seen : List (Except LoadError ν)} :
    l.peekAll? (.ok slot :: slots) = some seen ↔
      ∃ first rest, l.peek slot = some first ∧ l.peekAll? slots = some rest ∧
        seen = first :: rest := by
  simp only [peekAll?, List.mapM_cons, Option.bind_eq_bind, Option.bind_eq_some_iff,
    Option.pure_def, Option.some.injEq]
  constructor
  · rintro ⟨first, firstSeen, rest, restSeen, rfl⟩
    exact ⟨first, rest, firstSeen, restSeen, rfl⟩
  · rintro ⟨first, rest, firstSeen, restSeen, rfl⟩
    exact ⟨first, firstSeen, rest, restSeen, rfl⟩

theorem peekAll_cons_error {l : Loader κ ν} {e : LoadError} {slots : List (Except LoadError Slot)}
    {seen : List (Except LoadError ν)} :
    l.peekAll? (.error e :: slots) = some seen ↔
      ∃ rest, l.peekAll? slots = some rest ∧ seen = .error e :: rest := by
  simp only [peekAll?, List.mapM_cons, Option.bind_eq_bind, Option.bind_some,
    Option.bind_eq_some_iff, Option.pure_def, Option.some.injEq]
  constructor
  · rintro ⟨rest, restSeen, rfl⟩
    exact ⟨rest, restSeen, rfl⟩
  · rintro ⟨rest, restSeen, rfl⟩
    exact ⟨rest, restSeen, rfl⟩

theorem peek_congr {l next : Loader κ ν} (settled : next.settled = l.settled)
    (cancelled : next.cancelled = l.cancelled) (slot : Slot) : next.peek slot = l.peek slot := by
  simp only [peek, settled, cancelled]

theorem peekAll_congr {l next : Loader κ ν} {slots : List (Except LoadError Slot)}
    (same : ∀ slot, .ok slot ∈ slots → next.peek slot = l.peek slot) :
    next.peekAll? slots = l.peekAll? slots := by
  induction slots with
  | nil => rfl
  | cons first rest ih =>
    have tail := ih fun slot member => same slot (List.mem_cons_of_mem _ member)
    simp only [peekAll?] at tail ⊢
    cases first with
    | error e => simp [tail]
    | ok slot => simp [tail, same slot List.mem_cons_self]

/-- Once something is seen in every slot, everything is. -/
theorem Handed.seen {l : Loader κ ν} {closed : List (Batch κ)}
    {slots : List (Except LoadError Slot)} {keys : List κ} (handed : l.Handed closed slots keys)
    (settled : ∀ slot key, l.Carries closed slot key → ∃ seen, l.peek slot = some seen) :
    ∃ seen, l.peekAll? slots = some seen := by
  induction handed with
  | nil => exact ⟨[], rfl⟩
  | cons first _ ih =>
    obtain ⟨slot, rfl, carries⟩ := first
    obtain ⟨head, headSeen⟩ := settled _ _ carries
    obtain ⟨rest, restSeen⟩ := ih
    exact ⟨head :: rest, peekAll_cons.mpr ⟨head, rest, headSeen, restSeen, rfl⟩⟩

theorem holds_ofResult (batch : Batch κ) (answer : BatchAnswer ν) {index : Nat} {key : κ}
    (carried : batch.keys[index]? = some key) :
    Holds batch answer index ((Outcome.ofResult batch.keys.length answer).entry index) := by
  cases answer with
  | error e => exact .inl ⟨e, rfl, rfl⟩
  | ok entries =>
    by_cases equal : entries.length = batch.keys.length
    · obtain ⟨inside, _⟩ := List.getElem?_eq_some_iff.mp carried
      have holds : entries[index]? = some entries[index] :=
        List.getElem?_eq_getElem (equal ▸ inside)
      exact .inr (.inr ⟨entries, _, rfl, equal, holds,
        Outcome.entry_ofResult_of_length_eq equal holds⟩)
    · exact .inr (.inl ⟨entries, rfl, equal, Outcome.entry_ofResult_of_length_ne equal index⟩)

end

section
variable [DecidableEq κ]

/-- A key that gets a slot is cached under it. -/
theorem cache_of_submit {l : Loader κ ν} {key : κ} {slot : Slot}
    (given : (l.submit key).1 = .ok slot) : (key, slot) ∈ (l.submit key).2.cache := by
  cases stopped : l.cancelled with
  | true => simp [submit, stopped] at given
  | false =>
    cases known : l.cache.lookup key with
    | some old =>
      have same : old = slot := by simpa [submit, stopped, known] using given
      subst same
      simpa [submit, stopped, known] using mem_of_lookup known
    | none =>
      have same : (⟨l.currentBatch.id, l.currentBatch.keys.length⟩ : Slot) = slot := by
        simpa [submit, stopped, known] using given
      subst same
      have joins : (l.submit key).2 = l.join key := by simp [submit, stopped, known]
      rw [joins]
      by_cases room : l.currentBatch.keys.length + 1 < l.capacity
      · rw [l.join_of_room key room]
        exact List.mem_cons_self
      · rw [l.join_of_full key (Nat.le_of_not_lt room)]
        exact List.mem_cons_self

/-- Only cancellation denies a slot. -/
theorem submit_error {l : Loader κ ν} {key : κ} {e : LoadError}
    (denied : (l.submit key).1 = .error e) : e = .cancelled ∧ l.cancelled = true := by
  cases stopped : l.cancelled with
  | true => exact ⟨by simpa [submit, stopped] using denied.symm, rfl⟩
  | false => cases known : l.cache.lookup key <;> simp [submit, stopped, known] at denied

end

variable [DecidableEq κ] [Inhabited ν]

namespace Consistent

variable {l : Loader κ ν} {closed : List (Batch κ)} {given : List (Batch κ × BatchAnswer ν)}

theorem carries_of_submit (consistent : l.Consistent closed given) {key : κ} {slot : Slot}
    (handed : (l.submit key).1 = .ok slot) :
    (l.step (.submit key)).Carries (closed ++ l.closedBy (.submit key)) slot key :=
  (consistent.turn (turn_of_step l (.submit key))).cached.carried key slot (cache_of_submit handed)

/-- What is seen in a slot is cancellation, or what the answer to its batch holds there. -/
theorem holds_of_peek (consistent : l.Consistent closed given) {slot : Slot} {key : κ}
    (carries : l.Carries closed slot key) {seen : Except LoadError ν}
    (peeked : l.peek slot = some seen) :
    (seen = .error .cancelled ∧ l.cancelled = true) ∨
      ∃ batch answer, (batch, answer) ∈ given ∧ batch.id = slot.batch ∧ batch.keys.Nodup ∧
        batch.keys[slot.index]? = some key ∧ Holds batch answer slot.index seen := by
  obtain ⟨carrier, member, id, holds⟩ := carries
  cases settled : l.settled.lookup slot.batch with
  | none =>
    cases stopped : l.cancelled with
    | true => exact .inl ⟨by simpa [peek, settled, stopped] using peeked.symm, rfl⟩
    | false => simp [peek, settled, stopped] at peeked
  | some outcome =>
    obtain rfl : outcome.entry slot.index = seen := by simpa [peek, settled] using peeked
    have known : (slot.batch, outcome) ∈ l.outcomes :=
      List.mem_append_right _ (mem_of_lookup settled)
    rcases consistent.answered.outcomes _ _ known with ⟨rfl, stopped⟩ | ⟨batch, answer, origin⟩
    · exact .inl ⟨rfl, stopped⟩
    · obtain ⟨inGiven, same, rfl⟩ := origin
      have wasClosed := consistent.answered.wasClosed batch answer inGiven
      obtain rfl := consistent.staged.eq_of_id_eq (List.mem_append_left _ wasClosed) member
        (same.trans id.symm)
      have distinct := consistent.cached.distinctKeys batch member
      exact .inr ⟨batch, answer, inGiven, same, distinct, holds, holds_ofResult batch answer holds⟩

end Consistent

theorem Carries.run {l : Loader κ ν} {closed : List (Batch κ)} {slot : Slot} {key : κ}
    (carries : l.Carries closed slot key) (events : List (Event κ ν)) :
    (l.run events).Carries (closed ++ l.closedBatches events) slot key :=
  run_induction (P := fun l closed _ => l.Carries closed slot key)
    (fun l e _ _ holds => holds.turn (turn_of_step l e)) l events closed [] carries

/-- Every answer so far was given key by key. -/
def Serves (l : Loader κ ν) (value : κ → Except LookupError ν) (closed : List (Batch κ)) : Prop :=
  ∃ given, l.Consistent closed given ∧
    ∀ batch answer, (batch, answer) ∈ given → answer = BatchAnswer.pointwise value batch.keys

theorem serves_empty (capacity : Nat) (positive : 1 ≤ capacity) (value : κ → Except LookupError ν) :
    (empty capacity).Serves value [] :=
  ⟨[], consistent_empty capacity positive, by simp⟩

namespace Serves

variable {l : Loader κ ν} {value : κ → Except LookupError ν} {closed : List (Batch κ)}

theorem step (serves : l.Serves value closed) (e : Event κ ν)
    (fetched : ∀ batch answer, (batch, answer) ∈ l.answeredBy e →
      answer = BatchAnswer.pointwise value batch.keys) :
    (l.step e).Serves value (closed ++ l.closedBy e) := by
  obtain ⟨given, consistent, older⟩ := serves
  refine ⟨_, consistent.turn (turn_of_step l e), ?_⟩
  intro batch answer member
  rcases List.mem_append.mp member with old | new
  · exact older batch answer old
  · exact fetched batch answer new

/-- A slot delivers the value of its key. -/
theorem seen_eq (serves : l.Serves value closed) (active : l.cancelled = false) {slot : Slot}
    {key : κ} (carries : l.Carries closed slot key) {seen : Except LoadError ν}
    (peeked : l.peek slot = some seen) : seen = LoadError.ofEntry (value key) := by
  obtain ⟨given, consistent, fetched⟩ := serves
  rcases consistent.holds_of_peek carries peeked with ⟨_, stopped⟩ | origin
  · rw [active] at stopped
    contradiction
  · obtain ⟨batch, answer, inGiven, _, _, carried, holds⟩ := origin
    obtain rfl := fetched batch answer inGiven
    exact gives_pointwise batch value key _ _ carried holds

end Serves

/-- A batch that is called, answered and made known leaves nothing at the fetcher. -/
theorem served_of_call {l : Loader κ ν} {batch : Batch κ} {rest : List (Batch κ)}
    (waiting : l.waiting = batch :: rest) (distinct : (l.waiting.map (·.id)).Nodup)
    (active : l.cancelled = false) (calm : l.running = [] ∧ l.settling = [])
    (answer : BatchAnswer ν) :
    ∃ settled cache calls, ((l.begin batch.id).complete batch.id answer).publish batch.id =
        { l with cache, waiting := rest, settled := (batch.id, settled) :: l.settled, calls } := by
  have others := filter_ne_of_nodup (waiting ▸ distinct)
  refine ⟨.ofResult batch.keys.length answer,
    evict l.cache batch (.ofResult batch.keys.length answer), l.calls ++ [batch], ?_⟩
  simp [begin, complete, publish, settle, waiting, active, calm.1,
    calm.2, others]

theorem serves_of_call {l : Loader κ ν} {value : κ → Except LookupError ν}
    {closed : List (Batch κ)} {batch : Batch κ} {rest : List (Batch κ)}
    (serves : l.Serves value closed) (waiting : l.waiting = batch :: rest)
    (active : l.cancelled = false) (calm : l.running = [] ∧ l.settling = []) :
    ∃ later, (((l.begin batch.id).complete batch.id
        (BatchAnswer.pointwise value batch.keys)).publish batch.id).Serves value later ∧
      ∀ slot key, l.Carries closed slot key → (((l.begin batch.id).complete batch.id
        (BatchAnswer.pointwise value batch.keys)).publish batch.id).Carries later slot key := by
  have begun := serves.step (.begin batch.id) (by simp [answeredBy])
  have completed := begun.step (.complete batch.id (BatchAnswer.pointwise value batch.keys)) (by
    have running : (l.step (.begin batch.id)).running = [batch] := by
      simp [step, begin, waiting, active, calm.1]
    intro other answer member
    simp only [answeredBy, running, List.find?_cons, beq_self_eq_true, Option.toList_some,
      List.map_cons, List.map_nil, List.mem_singleton, Prod.mk.injEq] at member
    rw [member.1, member.2])
  have ended := completed.step (.publish batch.id) (by simp [answeredBy])
  refine ⟨_, ended, ?_⟩
  intro slot key carries
  have carriedBegun := carries.turn (turn_of_step l (.begin batch.id))
  have carriedCompleted := carriedBegun.turn (turn_of_step _ (.complete batch.id
    (BatchAnswer.pointwise value batch.keys)))
  exact carriedCompleted.turn (turn_of_step _ (.publish batch.id))

theorem Serves.seen_all {l : Loader κ ν} {value : κ → Except LookupError ν}
    {closed : List (Batch κ)} (serves : l.Serves value closed) (active : l.cancelled = false)
    {slots : List (Except LoadError Slot)} {keys : List κ} (handed : l.Handed closed slots keys)
    {seen : List (Except LoadError ν)} (peeked : l.peekAll? slots = some seen) :
    seen = keys.map fun key => LoadError.ofEntry (value key) := by
  induction handed generalizing seen with
  | nil => simpa [peekAll?] using peeked.symm
  | cons first _ ih =>
    obtain ⟨slot, rfl, carries⟩ := first
    obtain ⟨head, rest, headSeen, restSeen, rfl⟩ := peekAll_cons.mp peeked
    rw [List.map_cons, ← ih restSeen, serves.seen_eq active carries headSeen]

/-- However a load interleaves with other turns, what it gets is what the one answer to the batch
that carries its key holds at the position of the key, unless it has been cancelled. -/
theorem load_of_run (capacity : Nat) (positive : 1 ≤ capacity) (before : List (Event κ ν)) (key : κ)
    (after : List (Event κ ν)) (slot : Slot)
    (handed : (((empty capacity : Loader κ ν).run before).submit key).1 = .ok slot)
    (seen : Except LoadError ν)
    (peeked : ((empty capacity : Loader κ ν).run (before ++ .submit key :: after)).peek slot =
      some seen) :
    seen = .error .cancelled ∨
      ∃ batch answer, batch.id = slot.batch ∧ batch.keys.Nodup ∧
        batch.keys[slot.index]? = some key ∧ Holds batch answer slot.index seen ∧
        (batch, answer) ∈ (empty capacity : Loader κ ν).answers (before ++ .submit key :: after) ∧
        ∀ other ∈ (empty capacity : Loader κ ν).answers (before ++ .submit key :: after),
          other.1.id = slot.batch → other = (batch, answer) := by
  have reached : ((empty capacity : Loader κ ν).run before).Consistent _ _ :=
    consistent_of_run capacity positive before
  have carries := (reached.carries_of_submit handed).run after
  have consistent := (reached.turn (turn_of_step _ (.submit key))).run after
  rw [List.append_assoc (answers _ before)] at consistent
  rw [run_append] at peeked
  rw [answers_append]
  rcases consistent.holds_of_peek carries peeked with ⟨cancelled, _⟩ | origin
  · exact .inl cancelled
  · obtain ⟨batch, answer, inGiven, id, distinct, carried, holds⟩ := origin
    refine .inr ⟨batch, answer, id, distinct, carried, holds, inGiven, ?_⟩
    intro other member same
    exact List.inj_on_of_nodup_map consistent.answered.once member inGiven (same.trans id.symm)

end Loader

end Transit
