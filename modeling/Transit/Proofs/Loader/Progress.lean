import Transit.Proofs.Loader.Delivery
set_option autoImplicit false

/-!
# Progress under fairness

The tasks of a loader take turns without end, in an order that is only known to be fair: a task that
is due from some turn on takes its turn at last. Then every batch goes through all of its stages and
what was asked for is delivered (`loads_of_fair`), whatever the order and whichever batches the keys
fall into.
-/

namespace Transit

/-- The stages of a batch, from the first key to the known result. -/
inductive Stage
  | gathering
  | waiting
  | running
  | settling
  | settled
  deriving DecidableEq, Repr

def Stage.next : Stage → Stage
  | .gathering => .waiting
  | .waiting => .running
  | .running => .settling
  | .settling => .settled
  | .settled => .settled

/-- The stages that are still to come. -/
def Stage.remaining : Stage → Nat
  | .gathering => 4
  | .waiting => 3
  | .running => 2
  | .settling => 1
  | .settled => 0

theorem Stage.remaining_next (stage : Stage) (unsettled : stage ≠ .settled) :
    stage.next.remaining < stage.remaining := by
  cases stage <;> simp_all [next, remaining]

namespace Loader

variable {κ ν : Type}

/-- The batches in a stage. -/
def idsIn (l : Loader κ ν) : Stage → List Nat
  | .gathering => l.openBatch.toList.map (·.id)
  | .waiting => l.waiting.map (·.id)
  | .running => l.running.map (·.id)
  | .settling => l.settling.map (·.1.id)
  | .settled => l.settled.map (·.1)

/-- The turn of the task that takes a batch out of its stage. -/
def Event.Advances (e : Event κ ν) (id : Nat) : Stage → Prop
  | .gathering => e = .expire id
  | .waiting => e = .begin id
  | .running => ∃ answer, e = .complete id answer
  | .settling => e = .publish id
  | .settled => False

/-- A batch of some list is found by its id. -/
theorem find_of_mem_map {α : Type} (number : α → Nat) {xs : List α} {id : Nat}
    (member : id ∈ xs.map number) :
    ∃ x, xs.find? (fun y => number y == id) = some x ∧ number x = id := by
  obtain ⟨x, inside, same⟩ := List.mem_map.mp member
  have isSome : (xs.find? fun y => number y == id).isSome := by
    rw [List.find?_isSome]
    exact ⟨x, inside, by simp [same]⟩
  obtain ⟨found, isFound⟩ := Option.isSome_iff_exists.mp isSome
  exact ⟨found, isFound, by simpa using List.find?_some isFound⟩

theorem mem_map_filter_ne {α : Type} (number : α → Nat) {xs : List α} {id other : Nat}
    (member : id ∈ xs.map number) (differs : id ≠ other) :
    id ∈ (xs.filter fun x => number x != other).map number := by
  obtain ⟨x, inside, rfl⟩ := List.mem_map.mp member
  exact List.mem_map.mpr ⟨x, List.mem_filter.mpr ⟨inside, by simpa using differs⟩, rfl⟩

/-- The batch that carries a key is in some stage. -/
theorem stage_of_carries {l : Loader κ ν} {closed : List (Batch κ)} (staged : l.Staged closed)
    {slot : Slot} {key : κ} (carries : l.Carries closed slot key) :
    ∃ stage, slot.batch ∈ l.idsIn stage := by
  obtain ⟨batch, member, id, _⟩ := carries
  rw [← id]
  rcases List.mem_append.mp member with wasClosed | isOpen
  · have inStage := staged.stage.symm.subset (List.mem_map_of_mem wasClosed)
    simp only [stageIds, outcomes, List.map_append, List.map_map, List.mem_append] at inStage
    rcases inStage with (waits | runs) | settling | settled
    · exact ⟨.waiting, waits⟩
    · exact ⟨.running, runs⟩
    · exact ⟨.settling, settling⟩
    · exact ⟨.settled, settled⟩
  · exact ⟨.gathering, List.mem_map_of_mem isOpen⟩

theorem peek_of_settled [Inhabited ν] {l : Loader κ ν} {slot : Slot}
    (settled : slot.batch ∈ l.idsIn .settled) : ∃ seen, l.peek slot = some seen := by
  cases known : l.settled.lookup slot.batch with
  | some outcome => exact ⟨outcome.entry slot.index, by simp [peek, known]⟩
  | none =>
    obtain ⟨⟨id, outcome⟩, member, rfl⟩ := List.mem_map.mp settled
    have absent := List.lookup_eq_none_iff.mp known _ member
    simp at absent

theorem mem_idsIn_entered {l : Loader κ ν} {stage : Stage} {id : Nat} (key : κ)
    (member : id ∈ l.idsIn stage) : id ∈ (l.entered key).idsIn stage := by
  cases stage with
  | gathering =>
    cases isOpen : l.openBatch with
    | none => simp [idsIn, isOpen] at member
    | some batch => simpa [idsIn, entered, grown, currentBatch, isOpen] using member
  | _ => exact member

theorem mem_idsIn_close {l : Loader κ ν} {batch : Batch κ} {stage : Stage} {id : Nat}
    (isOpen : l.openBatch = some batch) (member : id ∈ l.idsIn stage) :
    id ∈ (l.close batch).idsIn stage ∨ id ∈ (l.close batch).idsIn stage.next := by
  cases stage with
  | gathering =>
    obtain rfl : id = batch.id := by simpa [idsIn, isOpen] using member
    exact .inr (by simp [idsIn, Stage.next, close])
  | waiting =>
    refine .inl ?_
    simp only [idsIn, close, List.map_append]
    exact List.mem_append_left _ member
  | _ => exact .inl member

variable [DecidableEq κ] [Inhabited ν]

/-- The loader after the first of endlessly many turns. -/
def after (start : Loader κ ν) (turns : Nat → Event κ ν) (count : Nat) : Loader κ ν :=
  start.run ((List.range count).map turns)

/-- No task that is due from some turn on is passed over for ever. -/
def Fair (start : Loader κ ν) (turns : Nat → Event κ ν) : Prop :=
  ∀ stage, stage ≠ .settled → ∀ id count,
    (∀ later ≥ count, id ∈ (start.after turns later).idsIn stage) →
      ∃ later ≥ count, (turns later).Advances id stage

/-- Each answer of the fetcher is given key by key. -/
def AnsweredBy (start : Loader κ ν) (turns : Nat → Event κ ν) (value : κ → Except LookupError ν) :
    Prop :=
  ∀ count id answer, turns count = .complete id answer →
    ∀ batch ∈ (start.after turns count).running, batch.id = id →
      answer = BatchAnswer.pointwise value batch.keys

/-! ## One turn -/

theorem cancelled_turn {l next : Loader κ ν} {e : Event κ ν} {closed : List (Batch κ)}
    {given : List (Batch κ × BatchAnswer ν)} (turn : Turn l e closed given next)
    (active : e ≠ .cancel) : next.cancelled = l.cancelled := by
  cases turn with
  | cancel => exact absurd rfl active
  | _ => rfl

/-- A batch leaves its stage for the next one only. -/
theorem stage_turn {l next : Loader κ ν} {e : Event κ ν} {closed : List (Batch κ)}
    {given : List (Batch κ × BatchAnswer ν)} (turn : Turn l e closed given next)
    (active : l.cancelled = false) {stage : Stage} {id : Nat} (member : id ∈ l.idsIn stage) :
    id ∈ next.idsIn stage ∨ id ∈ next.idsIn stage.next := by
  cases turn with
  | rest e => exact .inl member
  | cancel => exact .inl (by cases stage <;> exact member)
  | skip batch due stopped =>
    rw [active] at stopped
    contradiction
  | giveUp batch called stopped =>
    rw [active] at stopped
    contradiction
  | enter key isActive unknown room => exact .inl (mem_idsIn_entered key member)
  | fill key isActive unknown full => exact mem_idsIn_close rfl (mem_idsIn_entered key member)
  | expire batch isOpen => exact mem_idsIn_close isOpen member
  | call batch due isActive =>
    cases stage with
    | waiting =>
      by_cases same : id = batch.id
      · exact .inr (by simp [idsIn, Stage.next, same])
      · exact .inl (mem_map_filter_ne Batch.id member same)
    | running =>
      refine .inl ?_
      simp only [idsIn, List.map_append]
      exact List.mem_append_left _ member
    | _ => exact .inl member
  | answer batch result called =>
    cases stage with
    | running =>
      by_cases same : id = batch.id
      · exact .inr (by simp [idsIn, Stage.next, settle, same])
      · exact .inl (mem_map_filter_ne Batch.id member same)
    | settling =>
      refine .inl ?_
      simp only [idsIn, settle, List.map_append]
      exact List.mem_append_left _ member
    | _ => exact .inl member
  | publish batch outcome ended =>
    cases stage with
    | settling =>
      by_cases same : id = batch.id
      · exact .inr (by simp [idsIn, Stage.next, same])
      · exact .inl (mem_map_filter_ne (fun p : Batch κ × Outcome ν => p.1.id) member same)
    | settled => exact .inl (List.mem_cons_of_mem _ member)
    | _ => exact .inl member

/-- The turn of its task takes a batch to the next stage. -/
theorem stage_advance {l : Loader κ ν} {e : Event κ ν} {stage : Stage} {id : Nat}
    (active : l.cancelled = false) (member : id ∈ l.idsIn stage) (advances : e.Advances id stage) :
    id ∈ (l.step e).idsIn stage.next := by
  cases stage with
  | gathering =>
    obtain rfl := advances
    cases isOpen : l.openBatch with
    | none => simp [idsIn, isOpen] at member
    | some batch =>
      obtain rfl : id = batch.id := by simpa [idsIn, isOpen] using member
      simp [step, expire, isOpen, idsIn, Stage.next]
  | waiting =>
    obtain rfl := advances
    obtain ⟨batch, found, rfl⟩ := find_of_mem_map Batch.id member
    simp [step, begin, found, active, idsIn, Stage.next]
  | running =>
    obtain ⟨answer, rfl⟩ := advances
    obtain ⟨batch, found, rfl⟩ := find_of_mem_map Batch.id member
    simp [step, complete, found, settle, idsIn, Stage.next]
  | settling =>
    obtain rfl := advances
    obtain ⟨⟨batch, outcome⟩, found, rfl⟩ :=
      find_of_mem_map (fun p : Batch κ × Outcome ν => p.1.id) member
    simp [step, publish, found, idsIn, Stage.next]
  | settled => exact advances.elim

/-! ## Endless turns -/

variable {start : Loader κ ν} {turns : Nat → Event κ ν}

theorem after_succ (start : Loader κ ν) (turns : Nat → Event κ ν) (count : Nat) :
    start.after turns (count + 1) = (start.after turns count).step (turns count) := by
  rw [after, List.range_succ, List.map_append, run_append]
  rfl

theorem after_active (active : start.cancelled = false) (runs : ∀ count, turns count ≠ .cancel)
    (count : Nat) : (start.after turns count).cancelled = false := by
  induction count with
  | zero => exact active
  | succ count ih =>
    rw [after_succ, cancelled_turn (turn_of_step _ _) (runs count)]
    exact ih

/-- A fair runtime takes a batch out of every stage but the last. -/
theorem eventually_next (fair : start.Fair turns)
    (active : ∀ count, (start.after turns count).cancelled = false) {stage : Stage}
    (unsettled : stage ≠ .settled) {id count : Nat}
    (member : id ∈ (start.after turns count).idsIn stage) :
    ∃ later ≥ count, id ∈ (start.after turns later).idsIn stage.next := by
  by_contra never
  push Not at never
  have stays : ∀ later ≥ count, id ∈ (start.after turns later).idsIn stage := by
    intro later order
    induction order with
    | refl => exact member
    | @step later order ih =>
      have moved := stage_turn (turn_of_step _ (turns later)) (active later) ih
      rw [← after_succ] at moved
      exact moved.resolve_right (never (later + 1) (Nat.le_succ_of_le order))
  obtain ⟨later, order, advances⟩ := fair stage unsettled id count stays
  have advanced := stage_advance (active later) (stays later order) advances
  rw [← after_succ] at advanced
  exact never (later + 1) (Nat.le_succ_of_le order) advanced

theorem eventually_settled (fair : start.Fair turns)
    (active : ∀ count, (start.after turns count).cancelled = false) {stage : Stage}
    {id count : Nat} (member : id ∈ (start.after turns count).idsIn stage) :
    ∃ moment ≥ count, id ∈ (start.after turns moment).idsIn .settled := by
  induction left : stage.remaining using Nat.strongRecOn generalizing stage count with
  | _ remaining ih =>
    by_cases settled : stage = .settled
    · subst settled
      exact ⟨count, Nat.le_refl _, member⟩
    · obtain ⟨later, order, next⟩ := eventually_next fair active settled member
      have fewer : stage.next.remaining < remaining := left ▸ stage.remaining_next settled
      obtain ⟨moment, afterwards, ended⟩ := ih _ fewer next rfl
      exact ⟨moment, Nat.le_trans order afterwards, ended⟩

theorem settled_stays (active : ∀ count, (start.after turns count).cancelled = false)
    {id count : Nat} (member : id ∈ (start.after turns count).idsIn .settled) {later : Nat}
    (order : count ≤ later) : id ∈ (start.after turns later).idsIn .settled := by
  induction order with
  | refl => exact member
  | @step later _ ih =>
    have moved := stage_turn (turn_of_step _ (turns later)) (active later) ih
    rw [← after_succ] at moved
    rcases moved with settled | settled <;> exact settled

/-- Turns that leave nothing to be done are fair. -/
theorem fair_of_rest (rest : Nat) (idle : ∀ later ≥ rest, ∀ stage, stage ≠ .settled →
    (start.after turns later).idsIn stage = []) : start.Fair turns := by
  intro stage unsettled id count due
  have member := due (max count rest) (Nat.le_max_left count rest)
  rw [idle _ (Nat.le_max_right count rest) stage unsettled] at member
  contradiction

/-! ## Loads -/

section Loads

variable {capacity : Nat} {value : κ → Except LookupError ν}

theorem answeredBy_pointwise (answered : start.AnsweredBy turns value) (count : Nat)
    (batch : Batch κ) (answer : BatchAnswer ν)
    (member : (batch, answer) ∈ (start.after turns count).answeredBy (turns count)) :
    answer = BatchAnswer.pointwise value batch.keys := by
  cases turn : turns count with
  | complete id result =>
    rw [turn] at member
    simp only [answeredBy, List.mem_map, Option.mem_toList, Prod.mk.injEq] at member
    obtain ⟨_, found, rfl, rfl⟩ := member
    have same := List.find?_some found
    exact answered count id result turn _ (List.mem_of_find?_eq_some found) (by simpa using same)
  | _ => simp [turn, answeredBy] at member

theorem after_serves (positive : 1 ≤ capacity)
    (answered : (empty capacity).AnsweredBy turns value) (count : Nat) :
    ∃ closed, ((empty capacity).after turns count).Serves value closed := by
  induction count with
  | zero => exact ⟨[], serves_empty capacity positive value⟩
  | succ count ih =>
    obtain ⟨closed, serves⟩ := ih
    have next := serves.step (turns count) (answeredBy_pointwise answered count)
    rw [← after_succ] at next
    exact ⟨_, next⟩

/-- The slot of a load carries its key from then on. -/
theorem after_carries (positive : 1 ≤ capacity)
    (answered : (empty capacity).AnsweredBy turns value) {count : Nat} {key : κ} {slot : Slot}
    (submitted : turns count = .submit key)
    (handed : (((empty capacity).after turns count).submit key).1 = .ok slot) {later : Nat}
    (order : count < later) :
    ∃ closed, ((empty capacity).after turns later).Serves value closed ∧
      ((empty capacity).after turns later).Carries closed slot key := by
  induction order with
  | refl =>
    obtain ⟨closed, given, consistent, fetched⟩ := after_serves positive answered count
    have carries := consistent.carries_of_submit handed
    have serves := Serves.step ⟨given, consistent, fetched⟩ (turns count)
      (answeredBy_pointwise answered count)
    rw [← submitted, ← after_succ] at carries
    rw [← after_succ] at serves
    exact ⟨_, serves, carries⟩
  | @step later _ ih =>
    obtain ⟨closed, serves, carries⟩ := ih
    have next := serves.step (turns later) (answeredBy_pointwise answered later)
    have kept := carries.turn (turn_of_step _ (turns later))
    rw [← after_succ] at next kept
    exact ⟨_, next, kept⟩

/-- A single load gets the value of its key at last and for good, and sees nothing else before. -/
theorem load_of_fair (positive : 1 ≤ capacity) (fair : (empty capacity).Fair turns)
    (runs : ∀ count, turns count ≠ .cancel) (answered : (empty capacity).AnsweredBy turns value)
    {count : Nat} {key : κ} (submitted : turns count = .submit key) :
    ∃ slot, (((empty capacity).after turns count).submit key).1 = .ok slot ∧
      (∃ moment, ∀ later ≥ moment, ((empty capacity).after turns later).peek slot =
        some (LoadError.ofEntry (value key))) ∧
      ∀ later > count, ∀ seen, ((empty capacity).after turns later).peek slot = some seen →
        seen = LoadError.ofEntry (value key) := by
  have active : ∀ count, ((empty capacity).after turns count).cancelled = false :=
    after_active rfl runs
  cases handed : (((empty capacity).after turns count).submit key).1 with
  | error e =>
    have stopped := (submit_error handed).2
    rw [active] at stopped
    contradiction
  | ok slot =>
    have delivers : ∀ later > count, ∀ seen,
        ((empty capacity).after turns later).peek slot = some seen →
          seen = LoadError.ofEntry (value key) := by
      intro later order seen peeked
      obtain ⟨closed, serves, carries⟩ := after_carries positive answered submitted handed order
      exact serves.seen_eq (active later) carries peeked
    refine ⟨slot, rfl, ?_, delivers⟩
    obtain ⟨closed, ⟨given, consistent, _⟩, carries⟩ :=
      after_carries positive answered submitted handed (Nat.lt_succ_self count)
    obtain ⟨stage, inStage⟩ := stage_of_carries consistent.staged carries
    obtain ⟨moment, afterwards, settled⟩ := eventually_settled fair active inStage
    refine ⟨moment, ?_⟩
    intro later order
    obtain ⟨seen, peeked⟩ := peek_of_settled (settled_stays active settled order)
    rw [peeked, delivers later (by omega) seen peeked]

/-- However loads interleave: all of them together get the values of their keys at last and for
good, position by position, and see nothing else before. -/
theorem loads_of_fair (positive : 1 ≤ capacity) (fair : (empty capacity).Fair turns)
    (runs : ∀ count, turns count ≠ .cancel) (answered : (empty capacity).AnsweredBy turns value)
    (loads : List (Nat × κ)) (submitted : ∀ load ∈ loads, turns load.1 = .submit load.2) :
    (∃ moment, ∀ later ≥ moment, ((empty capacity).after turns later).peekAll?
        (loads.map fun load => (((empty capacity).after turns load.1).submit load.2).1) =
      some (loads.map fun load => LoadError.ofEntry (value load.2))) ∧
    ∀ later, (∀ load ∈ loads, load.1 < later) → ∀ seen,
      ((empty capacity).after turns later).peekAll?
        (loads.map fun load => (((empty capacity).after turns load.1).submit load.2).1) =
          some seen →
      seen = loads.map fun load => LoadError.ofEntry (value load.2) := by
  induction loads with
  | nil => simp [peekAll?]
  | cons load rest ih =>
    obtain ⟨⟨moment, all⟩, only⟩ := ih fun other member => submitted other (by simp [member])
    obtain ⟨slot, handed, ⟨ready, first⟩, firstOnly⟩ :=
      load_of_fair positive fair runs answered (submitted load (by simp))
    constructor
    · refine ⟨max moment ready, ?_⟩
      intro later order
      rw [List.map_cons, handed]
      exact peekAll_cons.mpr ⟨_, _, first later (by omega), all later (by omega), rfl⟩
    · intro later order seen peeked
      rw [List.map_cons, handed] at peeked
      obtain ⟨firstSeen, restSeen, peekedFirst, peekedRest, rfl⟩ := peekAll_cons.mp peeked
      have headEq := firstOnly later (order load (by simp)) firstSeen peekedFirst
      have tailEq := only later (fun other member => order other (by simp [member])) restSeen
        peekedRest
      rw [List.map_cons, headEq, tailEq]

end Loads

end Loader

end Transit
