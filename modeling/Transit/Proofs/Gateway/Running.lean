import Transit.Gateway.Resolve
import Transit.Proofs.Gateway.Loading
set_option autoImplicit false

/-!
# Runs of tasks and fields

A task that goes on with another runs like the one after the other (`Task.run_bind`), and a field
with a value has got a value from each of its parts (`Resolve.run_bind_ok`).
-/

namespace Transit

namespace Task

variable {α β : Type}

theorem run_bind (t : Task α) (f : α → Task β) (g : Gateway) :
    (t >>= f).run g = (f (t.run g).1).run (t.run g).2 := by
  induction t generalizing g with
  | done value => rfl
  | act change next ih => exact ih g (change g)
  | load l keys next ih => exact ih (g.loadAll l keys).1 (g.loadAll l keys).2

theorem run_load (l : Lookup) (keys : List l.Key)
    (next : List (Except LoadError l.Value) → Task α) (g : Gateway) :
    Task.run (.load l keys next) g = (next (g.loadAll l keys).1).run (g.loadAll l keys).2 := rfl

end Task

namespace Resolve

variable {α β : Type}

theorem run_bind (r : Resolve α) (f : α → Resolve β) (g : Gateway) :
    (r >>= f).run.run g =
      match r.run.run g with
      | (.ok a, next) => (f a).run.run next
      | (.error e, next) => (.error e, next) := by
  have both := Task.run_bind r.run (ExceptT.bindCont f) g
  refine both.trans ?_
  obtain ⟨answer, next⟩ := r.run.run g
  cases answer <;> rfl

theorem run_of_answer {r : Resolve α} {g : Gateway} {answer : Except FieldError α}
    (ended : (r.run.run g).1 = answer) : ∃ last, r.run.run g = (answer, last) := by
  rw [← ended]
  exact ⟨_, rfl⟩

/-- What a field with a value has got on the way. -/
theorem run_bind_ok {r : Resolve α} {f : α → Resolve β} {g last : Gateway} {b : β}
    (ran : (r >>= f).run.run g = (.ok b, last)) :
    ∃ a next, r.run.run g = (.ok a, next) ∧ (f a).run.run next = (.ok b, last) := by
  rw [run_bind] at ran
  cases first : r.run.run g with
  | mk answer next =>
    rw [first] at ran
    cases answer with
    | error e => cases ran
    | ok a => exact ⟨a, next, rfl, ran⟩

/-- Where a field without a value has failed. -/
theorem run_bind_error {r : Resolve α} {f : α → Resolve β} {g last : Gateway} {cause : FieldError}
    (ran : (r >>= f).run.run g = (.error cause, last)) :
    r.run.run g = (.error cause, last) ∨
      ∃ a next, r.run.run g = (.ok a, next) ∧ (f a).run.run next = (.error cause, last) := by
  rw [run_bind] at ran
  cases first : r.run.run g with
  | mk answer next =>
    rw [first] at ran
    cases answer with
    | error e =>
      obtain ⟨same, rfl⟩ := Prod.mk.inj ran
      obtain rfl := Except.error.inj same
      exact .inl rfl
    | ok a => exact .inr ⟨a, next, rfl, ran⟩

theorem run_bind_of_ok {r : Resolve α} {f : α → Resolve β} {g next : Gateway} {a : α}
    (first : r.run.run g = (.ok a, next)) :
    (r >>= f).run.run g = (f a).run.run next := by
  rw [run_bind, first]

@[simp] theorem run_look (view : Gateway → α) (g : Gateway) :
    (look view).run.run g = (.ok (view g), g) := rfl

@[simp] theorem run_pure (a : α) (g : Gateway) :
    (pure a : Resolve α).run.run g = (.ok a, g) := rfl

/-- A look-up on behalf of a field ends like the look-up. -/
theorem run_on (field : String) (t : Task (Except LookupError α)) (g : Gateway) :
    (on field t).run.run g = ((t.run g).1.mapError (FieldError.ofLookup field), (t.run g).2) := by
  refine (Task.run_bind t _ g).trans ?_
  obtain ⟨answer, next⟩ := t.run g
  cases answer <;> rfl

theorem run_on_ok {field : String} {t : Task (Except LookupError α)} {g next : Gateway} {a : α}
    (ran : (on field t).run.run g = (.ok a, next)) : t.run g = (.ok a, next) := by
  rw [run_on] at ran
  cases ended : t.run g with
  | mk answer after =>
    rw [ended] at ran
    cases answer with
    | error e => cases ran
    | ok found =>
      obtain ⟨same, rfl⟩ := Prod.mk.inj ran
      obtain rfl := Except.ok.inj same
      rfl

theorem run_ask (method : String) (query : Warehouse → α) (g : Gateway) :
    (ask method query).run.run g = (.ok (query g.warehouse), g.record method) := rfl

/-! ## What fields change -/

/-- What a field makes of the warehouse. It leaves the settings as they are. -/
structure Changes (r : Resolve α) (change : Warehouse → Warehouse) : Prop where
  warehouse : ∀ g, (r.run.run g).2.warehouse = change g.warehouse
  settings : ∀ g, (r.run.run g).2.settings = g.settings

abbrev Reads (r : Resolve α) : Prop := r.Changes fun w => w

theorem Reads.kept {r : Resolve α} (reads : r.Reads) {g last : Gateway}
    {answer : Except FieldError α} (ran : r.run.run g = (answer, last)) :
    last.warehouse = g.warehouse := by
  have same := reads.warehouse g
  rwa [ran] at same

theorem Changes.bind {r : Resolve α} {f : α → Resolve β} {change : Warehouse → Warehouse}
    (first : r.Changes change) (rest : ∀ a, (f a).Reads) : (r >>= f).Changes change := by
  have both : ∀ g, ((r >>= f).run.run g).2.warehouse = change g.warehouse ∧
      ((r >>= f).run.run g).2.settings = g.settings := by
    intro g
    rw [run_bind, ← first.warehouse g, ← first.settings g]
    obtain ⟨answer, next⟩ := r.run.run g
    cases answer with
    | error e => exact ⟨rfl, rfl⟩
    | ok a => exact ⟨(rest a).warehouse next, (rest a).settings next⟩
  exact ⟨fun g => (both g).1, fun g => (both g).2⟩

theorem reads_ofExcept (answer : Except FieldError α) : (ofExcept answer).Reads :=
  ⟨fun _ => rfl, fun _ => rfl⟩

theorem reads_look (view : Gateway → α) : (look view).Reads :=
  ⟨fun _ => rfl, fun _ => rfl⟩

theorem reads_ask (method : String) (query : Warehouse → α) : (ask method query).Reads :=
  ⟨fun _ => rfl, fun _ => rfl⟩

theorem reads_requireRole (role : String) : (requireRole role).Reads :=
  ⟨fun _ => rfl, fun _ => rfl⟩

theorem run_requireRole (role : String) (g : Gateway) :
    (requireRole role).run.run g = (g.request.user.requireRole role, g) := rfl

end Resolve

end Transit
