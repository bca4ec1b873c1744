import Transit.Proofs.Gateway.Running
set_option autoImplicit false

/-!
# What tasks may do to the gateway

A task is known by its single steps: where each of them stays within a relation, whatever values are
loaded on the way (`Task.Within`), its run stays within it (`Task.Within.run`), and so do tasks that
run together (`Task.Within.runTogether`). The relation has to last over steps in a row and over what
loaders do (`Gateway.Lasting`).
-/

namespace Transit

namespace Gateway

/-- A relation between a gateway and a later one that lasts over steps in a row, over the count of
calls, and over all that loaders do. -/
structure Lasting (R : Gateway → Gateway → Prop) : Prop where
  refl : ∀ g, R g g
  trans : ∀ {g h last}, R g h → R h last → R g last
  counts : ∀ method g, R g (record method g)
  submits : ∀ (g : Gateway) (l : Lookup) (keys : List l.Key),
    R g (g.setLoader l ((g.loader l).submitAll keys).2)
  works : ∀ (g : Gateway) (l : Lookup), R g (g.runWaiting l)
  expires : ∀ (g : Gateway) (l : Lookup), R g (g.expireOpen l)

variable {R : Gateway → Gateway → Prop}

theorem Lasting.foldl {α : Type} (lasting : Lasting R) {step : Gateway → α → Gateway}
    (steps : ∀ g a, R g (step g a)) (as : List α) (g : Gateway) : R g (as.foldl step g) := by
  induction as generalizing g with
  | nil => exact lasting.refl g
  | cons a rest ih => exact lasting.trans (steps g a) (ih (step g a))

theorem Lasting.settle (lasting : Lasting R) (g : Gateway) (l : Lookup)
    (slots : List (Except LoadError Slot)) : R g (g.settle l slots) := by
  have worked := lasting.works g l
  unfold Gateway.settle
  split
  · exact lasting.refl g
  · dsimp only
    split
    · exact worked
    · exact lasting.trans worked (lasting.trans (lasting.expires _ l) (lasting.works _ l))

theorem Lasting.loadAll (lasting : Lasting R) (g : Gateway) (l : Lookup) (keys : List l.Key) :
    R g (g.loadAll l keys).2 :=
  lasting.trans (lasting.submits g l keys) (lasting.settle _ l _)

end Gateway

namespace Task

open Gateway (Lasting)

variable {α β : Type} {R S : Gateway → Gateway → Prop}

/-- Each step of a task stays within a relation, whatever values are loaded. -/
def Within (R : Gateway → Gateway → Prop) : Task α → Prop
  | .done _ => True
  | .act change next => (∀ g, R g (change g)) ∧ ∀ g, (next g).Within R
  | .load _ _ next => ∀ values, (next values).Within R

theorem within_pure (R : Gateway → Gateway → Prop) (a : α) : (pure a : Task α).Within R :=
  trivial

theorem Within.bind {t : Task α} {f : α → Task β} (first : t.Within R)
    (rest : ∀ a, (f a).Within R) : (t >>= f).Within R := by
  induction t with
  | done a => exact rest a
  | act change next ih => exact ⟨first.1, fun g => ih g (first.2 g)⟩
  | load l keys next ih => exact fun values => ih values (first values)

theorem Within.mono {t : Task α} (within : t.Within R) (weaker : ∀ g h, R g h → S g h) :
    t.Within S := by
  induction t with
  | done a => trivial
  | act change next ih => exact ⟨fun g => weaker _ _ (within.1 g), fun g => ih g (within.2 g)⟩
  | load l keys next ih => exact fun values => ih values (within values)

theorem within_look (lasting : Lasting R) (view : Gateway → α) : (look view).Within R :=
  ⟨lasting.refl, fun _ => trivial⟩

theorem within_ask (lasting : Lasting R) (method : String) (query : Warehouse → α) :
    (ask method query).Within R :=
  ⟨lasting.counts method, fun _ => trivial⟩

theorem within_change {f : Gateway → Gateway} (steps : ∀ g, R g (f g)) : (change f).Within R :=
  ⟨steps, fun _ => trivial⟩

theorem within_update {f : Gateway → α × Gateway} (steps : ∀ g, R g (f g).2) :
    (update f).Within R :=
  ⟨steps, fun _ => trivial⟩

/-! ## Runs -/

theorem Within.run {t : Task α} (within : t.Within R) (lasting : Lasting R) (g : Gateway) :
    R g (t.run g).2 := by
  induction t generalizing g with
  | done a => exact lasting.refl g
  | act change next ih => exact lasting.trans (within.1 g) (ih g (within.2 g) (change g))
  | load l keys next ih =>
    exact lasting.trans (lasting.loadAll g l keys)
      (ih (g.loadAll l keys).1 (within _) (g.loadAll l keys).2)

/-- What is left of a task stays within a relation. -/
def Poll.Within (R : Gateway → Gateway → Prop) : Poll α → Prop
  | .finished _ => True
  | .blocked _ _ next => ∀ values, (next values).Within R

/-- A task goes on within a relation until it ends or has to wait, and so will what is left of it. -/
theorem Within.poll {t : Task α} (within : t.Within R) (lasting : Lasting R) (g : Gateway) :
    R g (t.poll g).2 ∧ (t.poll g).1.Within R := by
  induction t generalizing g with
  | done a => exact ⟨lasting.refl g, trivial⟩
  | act change next ih =>
    obtain ⟨moved, left⟩ := ih g (within.2 g) (change g)
    exact ⟨lasting.trans (within.1 g) moved, left⟩
  | load l keys next ih =>
    have submitted := lasting.submits g l keys
    simp only [Task.poll]
    cases ((g.loader l).submitAll keys).2.peekAll? ((g.loader l).submitAll keys).1 with
    | none => exact ⟨submitted, within⟩
    | some values =>
      obtain ⟨moved, left⟩ := ih values (within values) _
      exact ⟨lasting.trans submitted moved, left⟩

theorem Poll.Within.again {p : Poll α} (within : p.Within R) (lasting : Lasting R) (g : Gateway)
    {moved : Poll α × Gateway} (goesOn : p.again g = some moved) :
    R g moved.2 ∧ moved.1.Within R := by
  cases p with
  | finished a => cases goesOn
  | blocked l slots next =>
    obtain ⟨values, _, rfl⟩ := Option.map_eq_some_iff.mp goesOn
    exact (within values).poll lasting g

theorem within_pollAll (lasting : Lasting R) {ps : List (Poll α)} (within : ∀ p ∈ ps, p.Within R)
    (g : Gateway) : R g (pollAll g ps).2.2 ∧ ∀ p ∈ (pollAll g ps).1, p.Within R := by
  induction ps generalizing g with
  | nil => exact ⟨lasting.refl g, within⟩
  | cons p rest ih =>
    have others := ih fun q member => within q (List.mem_cons_of_mem p member)
    have first := within p List.mem_cons_self
    simp only [pollAll]
    cases goesOn : p.again g with
    | none =>
      obtain ⟨later, left⟩ := others g
      exact ⟨later, List.forall_mem_cons.mpr ⟨first, left⟩⟩
    | some moved =>
      obtain ⟨next, after⟩ := moved
      obtain ⟨now, remains⟩ := first.again lasting g goesOn
      obtain ⟨later, left⟩ := others after
      exact ⟨lasting.trans now later, List.forall_mem_cons.mpr ⟨remains, left⟩⟩

/-- Rounds stay within a relation when going on does, for states of which an invariant holds. -/
theorem within_rounds {σ : Type} {I : σ → Prop} {ended : σ → Bool}
    {goOn : Gateway → σ → σ × Bool × Gateway} (lasting : Lasting R)
    (keeps : ∀ g s, I s → R g (goOn g s).2.2 ∧ I (goOn g s).1) (fuel : Nat) {s : σ} (holds : I s)
    (g : Gateway) : R g (rounds ended goOn fuel s g).2 := by
  induction fuel generalizing s g with
  | zero => exact lasting.refl g
  | succ fuel ih =>
    rw [rounds]
    split
    · exact lasting.refl g
    · have worked := lasting.foldl (fun g l => lasting.works g l) Lookup.all g
      have expired (g : Gateway) := lasting.foldl
        (fun g l => lasting.trans (lasting.expires g l) (lasting.works _ l)) Lookup.all g
      obtain ⟨polled, left⟩ := keeps (Lookup.all.foldl (fun g l => g.runWaiting l) g) s holds
      have sofar := lasting.trans worked polled
      dsimp only
      split
      · exact lasting.trans sofar (ih left _)
      · obtain ⟨last, remains⟩ := keeps
          (Lookup.all.foldl (fun g l => (g.expireOpen l).runWaiting l) _) _ left
        exact lasting.trans sofar (lasting.trans (expired _) (lasting.trans last (ih remains _)))

theorem within_start (lasting : Lasting R) {ts : List (Task α)} (within : ∀ t ∈ ts, t.Within R)
    (g : Gateway) : R g (start g ts).2 ∧ ∀ p ∈ (start g ts).1, p.Within R := by
  induction ts generalizing g with
  | nil => exact ⟨lasting.refl g, by simp [start]⟩
  | cons t rest ih =>
    obtain ⟨polled, left⟩ := (within t List.mem_cons_self).poll lasting g
    obtain ⟨started, others⟩ := ih (fun u member => within u (List.mem_cons_of_mem t member))
      (t.poll g).2
    exact ⟨lasting.trans polled started, List.forall_mem_cons.mpr ⟨left, others⟩⟩

theorem within_runInOrder (lasting : Lasting R) (fuel : Nat) {ts : List (Task α)}
    (within : ∀ t ∈ ts, t.Within R) (g : Gateway) : R g (runInOrder fuel ts g).2 := by
  obtain ⟨started, left⟩ := within_start lasting within g
  exact lasting.trans started (within_rounds (I := fun ps => ∀ p ∈ ps, Poll.Within R p) lasting
    (fun g ps left => within_pollAll lasting left g) fuel left _)

/-! ### Many tasks -/

theorem Within.pollFor {t : Task α} (within : t.Within R) (lasting : Lasting R) (steps : Nat)
    (g : Gateway) : R g (t.pollFor steps g).2.2 ∧ (t.pollFor steps g).1.Within R := by
  induction t generalizing steps g with
  | done a => exact ⟨lasting.refl g, trivial⟩
  | act change next ih =>
    cases steps with
    | zero => exact ⟨lasting.refl g, fun _ => within⟩
    | succ steps =>
      obtain ⟨moved, left⟩ := ih g (within.2 g) steps (change g)
      exact ⟨lasting.trans (within.1 g) moved, left⟩
  | load l keys next ih =>
    have submitted := lasting.submits g l keys
    simp only [Task.pollFor]
    cases ((g.loader l).submitAll keys).2.peekAll? ((g.loader l).submitAll keys).1 with
    | none => exact ⟨submitted, within⟩
    | some values =>
      obtain ⟨moved, left⟩ := ih values (within values) steps _
      exact ⟨lasting.trans submitted moved, left⟩

theorem Poll.Within.againFor {p : Poll α} (within : p.Within R) (lasting : Lasting R)
    (steps : Nat) (g : Gateway) {moved : Poll α × Nat × Gateway}
    (goesOn : p.againFor steps g = some moved) : R g moved.2.2 ∧ moved.1.Within R := by
  cases p with
  | finished a => cases goesOn
  | blocked l slots next =>
    obtain ⟨values, _, rfl⟩ := Option.map_eq_some_iff.mp goesOn
    exact (within values).pollFor lasting steps g

/-- What is left of each task of a queue stays within a relation. -/
def QueueWithin (R : Gateway → Gateway → Prop) (queue : List (Nat × Poll α)) : Prop :=
  ∀ entry ∈ queue, entry.2.Within R

theorem QueueWithin.cons {entry : Nat × Poll α} {queue : List (Nat × Poll α)}
    (first : entry.2.Within R) (rest : QueueWithin R queue) : QueueWithin R (entry :: queue) :=
  List.forall_mem_cons.mpr ⟨first, rest⟩

theorem QueueWithin.append {front back : List (Nat × Poll α)} (first : QueueWithin R front)
    (rest : QueueWithin R back) : QueueWithin R (front ++ back) := fun entry member =>
  (List.mem_append.mp member).elim (first entry) (rest entry)

theorem QueueWithin.turnFor (lasting : Lasting R) {queue : List (Nat × Poll α)}
    (within : QueueWithin R queue) (g : Gateway) (steps : Nat) :
    R g (turnFor g steps queue).2.2.2 ∧ QueueWithin R (turnFor g steps queue).1 ∧
      QueueWithin R (turnFor g steps queue).2.1 := by
  induction queue generalizing g steps with
  | nil => exact ⟨lasting.refl g, within, within⟩
  | cons entry rest ih =>
    have others := ih fun q member => within q (List.mem_cons_of_mem entry member)
    have first := within entry List.mem_cons_self
    obtain ⟨place, p⟩ := entry
    simp only [Task.turnFor]
    cases goesOn : p.againFor steps g with
    | none =>
      obtain ⟨later, paused, left⟩ := others g steps
      exact ⟨later, paused, .cons first left⟩
    | some moved =>
      obtain ⟨next, fewer, after⟩ := moved
      obtain ⟨now, remains⟩ := first.againFor lasting steps g goesOn
      obtain ⟨later, paused, left⟩ := others after fewer
      have sofar := lasting.trans now later
      dsimp only
      split
      · exact ⟨sofar, .append paused (.cons remains fun _ none => (by cases none)), left⟩
      · exact ⟨sofar, paused, .cons remains left⟩

theorem within_runQueued (lasting : Lasting R) (fuel : Nat) {ts : List (Task α)}
    (within : ∀ t ∈ ts, t.Within R) (g : Gateway) : R g (runQueued fuel ts g).2 := by
  refine within_rounds (I := QueueWithin R) lasting (fun g queue left => ?_) fuel ?_ g
  · obtain ⟨moved, paused, others⟩ := left.turnFor lasting g turnSteps
    exact ⟨moved, paused.append others⟩
  · intro entry member
    obtain ⟨⟨t, place⟩, listed, rfl⟩ := List.mem_map.mp member
    exact fun _ => within t (List.fst_mem_of_mem_zipIdx listed)

/-- Tasks that run together do what they may do alone. -/
theorem Within.runTogether (lasting : Lasting R) (fuel : Nat) {ts : List (Task α)}
    (within : ∀ t ∈ ts, t.Within R) (g : Gateway) : R g (runTogether fuel ts g).2 := by
  unfold Task.runTogether
  split
  · exact within_runInOrder lasting fuel within g
  · exact within_runQueued lasting fuel within g

end Task

/-! ## Tasks that may fail -/

/-- Each step of a field or selection stays within a relation. -/
structure Stays {ε α : Type} (R : Gateway → Gateway → Prop) (r : ExceptT ε Task α) : Prop where
  within : r.run.Within R

namespace Stays

variable {ε α β : Type} {R S : Gateway → Gateway → Prop} {r : ExceptT ε Task α}

theorem mono (stays : Stays R r) (weaker : ∀ g h, R g h → S g h) : Stays S r :=
  ⟨stays.within.mono weaker⟩

theorem run (stays : Stays R r) (lasting : Gateway.Lasting R) (g : Gateway) :
    R g (r.run.run g).2 :=
  stays.within.run lasting g

theorem pure (R : Gateway → Gateway → Prop) (a : α) : Stays R (Pure.pure a : ExceptT ε Task α) :=
  ⟨trivial⟩

theorem throw (R : Gateway → Gateway → Prop) (cause : ε) :
    Stays R (MonadExcept.throw cause : ExceptT ε Task α) :=
  ⟨trivial⟩

theorem bind {f : α → ExceptT ε Task β} (first : Stays R r) (rest : ∀ a, Stays R (f a)) :
    Stays R (r >>= f) := by
  refine ⟨Task.Within.bind first.within fun answer => ?_⟩
  cases answer with
  | ok a => exact (rest a).within
  | error cause => trivial

theorem mapM {f : α → ExceptT ε Task β} (each : ∀ a, Stays R (f a)) (as : List α) :
    Stays R (as.mapM f) := by
  have loop (as : List α) (done : List β) : Stays R (List.mapM.loop f as done) := by
    induction as generalizing done with
    | nil => exact pure R _
    | cons a rest ih => exact (each a).bind fun b => ih (b :: done)
  exact loop as []

theorem mapM_option {f : α → ExceptT ε Task β} (each : ∀ a, Stays R (f a)) (a : Option α) :
    Stays R (a.mapM f) := by
  cases a with
  | none => exact pure R _
  | some a => exact (each a).bind fun b => pure R _

end Stays

namespace Resolve

variable {α : Type} {R : Gateway → Gateway → Prop}

theorem stays_task {t : Task α} (within : t.Within R) : Stays R (task t) :=
  ⟨within.bind fun _ => trivial⟩

theorem stays_ofExcept (R : Gateway → Gateway → Prop) (answer : Except FieldError α) :
    Stays R (ofExcept answer) :=
  ⟨trivial⟩

theorem stays_on {field : String} {t : Task (Except LookupError α)} (within : t.Within R) :
    Stays R (on field t) := by
  refine ⟨within.bind fun answer => ?_⟩
  cases answer <;> trivial

theorem stays_look (lasting : Gateway.Lasting R) (view : Gateway → α) : Stays R (look view) :=
  stays_task (Task.within_look lasting view)

theorem stays_ask (lasting : Gateway.Lasting R) (method : String) (query : Warehouse → α) :
    Stays R (ask method query) :=
  stays_task (Task.within_ask lasting method query)

theorem stays_requireRole (lasting : Gateway.Lasting R) (role : String) :
    Stays R (requireRole role) :=
  (stays_look lasting _).bind fun _ => stays_ofExcept R _

end Resolve

end Transit
