import Transit.Proofs.Gateway.Remembered
import Transit.Proofs.Gateway.Running
set_option autoImplicit false

/-!
# How tasks end

A request that goes on is answered by the warehouse, the messages and the clock alone: what tasks
leave behind in loaders and memories makes no difference to those that follow (`Gateway.Alike`). So
a task has one outcome over all gateways that are alike (`Task.Ends`), and the outcome of a task or
field can be put together from the outcomes of its parts.
-/

namespace Transit

namespace Gateway

variable {g h next : Gateway} {k l : Lookup}

/-! ## Loaders are apart from each other -/

theorem loader_setLoader_of_ne (other : k ≠ l) (g : Gateway) (loader : Loader l.Key l.Value) :
    (g.setLoader l loader).loader k = g.loader k := by
  simp [setLoader, Gateway.loader, Request.setLoader, Ne.symm other]

theorem loader_runBatch_of_ne (other : k ≠ l) (g : Gateway) (batch : Batch l.Key) :
    (g.runBatch l batch).loader k = g.loader k := by
  unfold runBatch
  dsimp only
  split
  · exact loader_setLoader_of_ne other _ _
  · exact loader_setLoader_of_ne other _ _

theorem loader_runWaiting_of_ne (other : k ≠ l) (g : Gateway) :
    (g.runWaiting l).loader k = g.loader k := by
  rw [runWaiting]
  generalize (g.loader l).waiting = batches
  induction batches generalizing g with
  | nil => rfl
  | cons batch rest ih => exact (ih (g.runBatch l batch)).trans (loader_runBatch_of_ne other g batch)

theorem loader_expireOpen_of_ne (other : k ≠ l) (g : Gateway) :
    (g.expireOpen l).loader k = g.loader k := by
  unfold expireOpen
  split
  · exact loader_setLoader_of_ne other _ _
  · rfl

theorem loader_loadAll_of_ne (other : k ≠ l) (g : Gateway) (keys : List l.Key) :
    (g.loadAll l keys).2.loader k = g.loader k := by
  have submitted := loader_setLoader_of_ne other g ((g.loader l).submitAll keys).2
  rw [← submitted]
  simp only [loadAll, settle]
  split
  · rfl
  · split
    · exact loader_runWaiting_of_ne other _
    · rw [loader_runWaiting_of_ne other, loader_expireOpen_of_ne other,
        loader_runWaiting_of_ne other]

/-! ## Gateways alike -/

/-- The request goes on, and only the warehouse of the gateway has answered it. -/
structure Active (g : Gateway) : Prop where
  going : g.request.cancelled = false
  ready : ∀ l, g.Ready l

theorem active_startRequest (g : Gateway) (user : User) : (g.startRequest user).Active :=
  ⟨rfl, ready_startRequest g user⟩

/-- The service window of a feed version. -/
def serviceWindow? (g : Gateway) (version : Int) : Option ServiceWindow :=
  (g.serviceWindows.lookup version).getD (g.warehouse.serviceWindow? version)

/-- All that a request depends on is the same. -/
structure Alike (g h : Gateway) : Prop where
  warehouse : h.warehouse = g.warehouse
  settings : h.settings = g.settings
  now : h.now = g.now
  topics : h.topics = g.topics
  ids : IdCache.Alike g.warehouse g.ids h.ids
  serviceWindow : ∀ version, h.serviceWindow? version = g.serviceWindow? version
  active : h.Active

theorem Active.alike (active : g.Active) : g.Alike g :=
  ⟨rfl, rfl, rfl, rfl, .refl _ _, fun _ => rfl, active⟩

theorem Alike.loadAll (alike : g.Alike h) (l : Lookup) (keys : List l.Key) :
    g.Alike (h.loadAll l keys).2 := by
  have ready := alike.active.ready l
  have leads := loadAll_leads ready.fed rfl keys
  have calm := (settled_seen ready keys).1
  obtain ⟨loaders, calls, loaded⟩ := leads.loaded
  refine ⟨?_, ?_, ?_, ?_, ?_, ?_, ⟨?_, fun k => ?_⟩⟩
  · rw [leads.warehouse, alike.warehouse]
  · rw [loaded, ← alike.settings]
  · rw [loaded, ← alike.now]
  · rw [loaded, ← alike.topics]
  · rw [loaded]
    exact alike.ids
  · rw [loaded]
    exact alike.serviceWindow
  · rw [loaded]
    exact alike.active.going
  · by_cases other : k = l
    · subst other
      exact ⟨calm, leads.warehouse ▸ ready.fed.leads leads rfl⟩
    · have same := loader_loadAll_of_ne other h keys
      obtain ⟨calmOther, fedOther⟩ := alike.active.ready k
      refine ⟨same ▸ calmOther, ?_⟩
      unfold FedBy at fedOther ⊢
      rw [same, leads.warehouse]
      exact fedOther

end Gateway

/-! ## Outcomes of tasks -/

namespace Task

variable {α β : Type} {g : Gateway} {l : Lookup}

/-- Over every gateway like this one the task ends with one answer, and leaves such a gateway. -/
def Ends (t : Task α) (g : Gateway) (a : α) : Prop :=
  ∀ h, g.Alike h → (t.run h).1 = a ∧ g.Alike (t.run h).2

theorem Ends.of_active {t : Task α} {a : α} (ends : t.Ends g a) (active : g.Active) :
    (t.run g).1 = a :=
  (ends g active.alike).1

theorem ends_pure (a : α) (g : Gateway) : (pure a : Task α).Ends g a :=
  fun _ alike => ⟨rfl, alike⟩

theorem Ends.bind {t : Task α} {f : α → Task β} {a : α} {b : β} (first : t.Ends g a)
    (rest : (f a).Ends g b) : (t >>= f).Ends g b := by
  intro h alike
  obtain ⟨answer, after⟩ := first h alike
  rw [run_bind, answer]
  exact rest _ after

theorem ends_look {view : Gateway → α} (same : ∀ h, g.Alike h → view h = view g) :
    (look view).Ends g (view g) :=
  fun h alike => ⟨same h alike, alike⟩

theorem ends_remember {lookup : Warehouse → IdCache → Remembered α}
    (remembers : IdCache.Remembers lookup) :
    (remember lookup).Ends g (lookup g.warehouse g.ids).answer := by
  intro h alike
  have kept : IdCache.Alike g.warehouse g.ids (lookup h.warehouse h.ids).cache := by
    rw [alike.warehouse]
    exact alike.ids.trans (remembers.keeps g.warehouse h.ids)
  refine ⟨?_, { alike with ids := kept, active := ⟨alike.active.going, ?_⟩ }⟩
  · show (lookup h.warehouse h.ids).answer = _
    rw [alike.warehouse, remembers.answer alike.ids]
  · exact fun l => ⟨(alike.active.ready l).calm, (alike.active.ready l).fed⟩

theorem ends_load {value : Warehouse → l.Key → Except LookupError l.Value}
    (separate : Gateway.Separate l value) {keys : List l.Key}
    {next : List (Except LoadError l.Value) → Task α} {a : α}
    (rest : (next (keys.map fun key => LoadError.ofEntry (value g.warehouse key))).Ends g a) :
    Ends (.load l keys next) g a := by
  intro h alike
  have got := Gateway.loadAll_complete (alike.active.ready l) fun key (_ : key ∈ keys) =>
    separate.apart key
  rw [alike.warehouse] at got
  rw [run_load, got]
  exact rest _ (alike.loadAll l keys)

theorem ends_serviceWindow (version : Int) (g : Gateway) :
    (serviceWindow version).Ends g (.ok (g.serviceWindow? version)) := by
  intro h alike
  refine ⟨congrArg Except.ok (alike.serviceWindow version), ?_⟩
  simp only [serviceWindow, run]
  cases known : h.serviceWindows.lookup version with
  | some found => exact alike
  | none =>
    refine { alike with serviceWindow := fun other => ?_, active := ⟨alike.active.going, ?_⟩ }
    · rw [← alike.serviceWindow other]
      exact IdCache.getD_lookup_cons known h.warehouse.serviceWindow? other
    · exact fun l => ⟨(alike.active.ready l).calm, (alike.active.ready l).fed⟩

end Task

/-! ## Outcomes of fields -/

namespace Resolve

variable {α β : Type} {g : Gateway}

/-- Over every gateway like this one the field has one value or error. -/
abbrev Ends (r : Resolve α) (g : Gateway) (a : Except FieldError α) : Prop :=
  Task.Ends r.run g a

theorem ends_ofExcept (a : Except FieldError α) (g : Gateway) : (ofExcept a).Ends g a :=
  Task.ends_pure a g

theorem Ends.bind {r : Resolve α} {f : α → Resolve β} {a : Except FieldError α}
    {k : α → Except FieldError β} (first : r.Ends g a)
    (rest : ∀ x, a = .ok x → (f x).Ends g (k x)) : (r >>= f).Ends g (a >>= k) := by
  intro h alike
  obtain ⟨ended, likeAfter⟩ := first h alike
  obtain ⟨after, ran⟩ := run_of_answer ended
  rw [ran] at likeAfter
  rw [run_bind, ran]
  cases a with
  | error e => exact ⟨rfl, likeAfter⟩
  | ok x => exact rest x rfl after likeAfter

theorem Ends.bind_ok {r : Resolve α} {f : α → Resolve β} {a : α} {b : Except FieldError β}
    (first : r.Ends g (.ok a)) (rest : (f a).Ends g b) : (r >>= f).Ends g b := by
  refine Ends.bind (k := fun _ => b) first fun x same => ?_
  obtain rfl := Except.ok.inj same
  exact rest

theorem Ends.task {t : Task α} {a : α} (ends : t.Ends g a) : (task t).Ends g (.ok a) :=
  Task.Ends.bind ends (Task.ends_pure _ g)

theorem ends_look {view : Gateway → α} (same : ∀ h, g.Alike h → view h = view g) :
    (look view).Ends g (.ok (view g)) :=
  Ends.task (Task.ends_look same)

theorem ends_on (field : String) {t : Task (Except LookupError α)} {a : Except LookupError α}
    (ends : t.Ends g a) : (on field t).Ends g (a.mapError (.ofLookup field)) := by
  refine Task.Ends.bind ends ?_
  cases a <;> exact Task.ends_pure _ g

theorem ends_checkCancelled (g : Gateway) : checkCancelled.Ends g (.ok ()) := by
  intro h alike
  rw [checkCancelled, run_bind_of_ok (run_look _ h), alike.active.going]
  exact ⟨rfl, alike⟩

end Resolve

end Transit
