import Transit.Proofs.Http.Requests
import Transit.Session
set_option autoImplicit false

/-!
# What the moves of a session leave as it is

A move of a session is a call by its name, or some calls that run together. It leaves the zones of
stops as they are, unless it edits stops; what is remembered is then as it was before
(`Session.Move.keeps`). So over any moves that leave the zone of one stop as it is in the warehouse,
the zone that is found for this stop stays the same (`Session.Undisturbed.settled`).
-/

namespace Transit

open Gateway (Steady SameMemory SameAnswers lasting_steady lasting_sameMemory lasting_sameAnswers)

namespace Gateway

/-- What is found for the zone of a stop is what the warehouse says. -/
structure Settled (g : Gateway) (id : Int) (zone : Option Zone) : Prop where
  known : g.zoneOf id = zone
  found : g.zoneFound id = zone
  fed : g.Fed

variable {g h : Gateway} {id : Int} {zone : Option Zone}

/-- A gateway that remembers nothing of the stop's zone. -/
theorem settled_of_fresh (fresh : g.ids.stopZones.lookup id = none) (fed : g.Fed) :
    g.Settled id (g.zoneOf id) := by
  refine ⟨rfl, ?_, fed⟩
  rw [zoneFound_eq, fresh, Option.getD_none]

theorem Settled.steady (settled : g.Settled id zone) (steady : Steady g h) : h.Settled id zone where
  known := (steady.zoneOf id).trans settled.known
  found := (steady.found id).trans settled.found
  fed := steady.fed settled.fed

/-- The warehouse may change, as long as what it says of the zone does not. -/
theorem Settled.sameMemory (settled : g.Settled id zone) (same : SameMemory g h)
    (kept : h.zoneOf id = g.zoneOf id) : h.Settled id zone := by
  refine ⟨kept.trans settled.known, ?_, same.fed settled.fed⟩
  rw [zoneFound_eq, same.ids, kept, ← zoneFound_eq]
  exact settled.found

end Gateway

namespace Session

open Select Resolve

/-! ## Acts -/

theorem stays_acted {R : Gateway → Gateway → Prop} {act : Select Unit} (stays : Stays R act) :
    Stays R (acted act) :=
  stays.bind fun _ => .pure _ _

theorem answers_look {α : Type} (view : Gateway → α) : Stays SameAnswers (Select.look view) :=
  (Select.consults_look view).sameAnswers

theorem stays_readSource {R : Gateway → Gateway → Prop} (args : Args) :
    Stays R (readSource args) := by
  refine (args.stays_optional _ _).bind fun given => ?_
  cases given with
  | some message => exact .pure _ _
  | none =>
    refine (args.stays_required _ _).bind fun bytes => ?_
    cases Realtime.Source.decode? bytes with
    | some source => exact .pure _ _
    | none => exact .throw _ _

theorem answers_publish (args : Args) : Stays SameAnswers (publish args) :=
  (args.stays_required _ _).bind fun _ => (stays_readSource args).bind fun _ =>
    stays_change fun _ => ⟨rfl, .refl _ _, id⟩

theorem answers_setClock (args : Args) : Stays SameAnswers (setClock args) :=
  (args.stays_required _ _).bind fun _ => stays_change fun _ => ⟨rfl, .refl _ _, id⟩

theorem answers_newRequest (args : Args) : Stays SameAnswers (newRequest args) :=
  (args.stays_withDefault _ _ _).bind fun user =>
    stays_change fun g => ⟨rfl, .refl _ _, fun _ => g.fed_startRequest user⟩

theorem answers_addDimension (args : Args) : Stays SameAnswers (addDimension args) :=
  (args.stays_required _ _).bind fun _ => stays_change fun _ => ⟨rfl, .refl _ _, id⟩

theorem answers_meterEvent (args : Args) : Stays SameAnswers (meterEvent args) :=
  (args.stays_required _ _).bind fun _ => (args.stays_required _ _).bind fun _ =>
    (args.stays_required _ _).bind fun _ =>
    (stays_change fun _ => ⟨rfl, .refl _ _, id⟩).bind fun _ =>
    (answers_look _).bind fun _ => .pure _ _

theorem answers_requireRole (args : Args) : Stays SameAnswers (requireRole args) :=
  (args.stays_required _ _).bind fun _ => stays_ofField (stays_requireRole lasting_sameAnswers _)

/-- What is selected consults the warehouse at most, or it may edit it, but no stops, and remembers
nothing of it. -/
def Minds (select : Select Json) : Prop :=
  Stays SameAnswers select ∨ Stays SameMemory select ∧ KeepsZones select

theorem Minds.ofRead {α : Type} (read : Option α) {f : α → Select Json}
    (rest : ∀ a, Minds (f a)) : Minds (Select.ofRead read >>= f) := by
  cases read with
  | none => exact .inl (.throw _ _)
  | some a => exact rest a

theorem Minds.withDefault {α : Type} (args : Args) (read : Json → Option α) (name : String)
    (absent : α) {f : α → Select Json} (rest : ∀ a, Minds (f a)) :
    Minds (args.withDefault read name absent >>= f) := by
  unfold Args.withDefault Args.optional
  cases Json.Fields.optional args read name with
  | none => exact .inl (.throw _ _)
  | some given => exact rest (given.getD absent)

theorem minds_http (args : Args) : Minds (http args) := by
  refine .withDefault _ _ _ _ fun method => .ofRead _ fun path => ?_
  refine .withDefault _ _ _ _ fun headers => ?_
  dsimp only
  split
  · rcases Http.Request.serve_cases ⟨method, path, headers⟩ with same | ⟨remembers, keeps⟩
    · exact .inl ((Select.stays_task (Task.within_update same)).bind fun _ => .pure _ _)
    · exact .inr ⟨(Select.stays_task (Task.within_update remembers)).bind fun _ => .pure _ _,
        (Select.stays_task (Task.within_update keeps)).bind fun _ => .pure _ _⟩
  · exact .inl (.throw _ _)

theorem acts_mind : acts.Forall fun named => ∀ args, Minds (named.2 args) :=
  ⟨fun args => .inl (stays_acted (answers_setClock args)),
    fun args => .inl (stays_acted (answers_publish args)),
    fun _ => .inl (stays_acted (stays_change fun _ => ⟨rfl, .refl _ _, Gateway.Fed.cancel⟩)),
    fun args => .inl (stays_acted (answers_newRequest args)),
    fun _ => .inl (answers_look _),
    fun _ => .inl ((answers_look _).bind fun _ => .pure _ _),
    fun _ => .inl ((answers_look _).bind fun _ => .pure _ _),
    fun args => .inl (stays_acted (answers_addDimension args)),
    fun args => .inl (answers_meterEvent args),
    fun args => .inl ((args.stays_required _ _).bind fun _ => (answers_look _).bind fun _ =>
      .pure _ _),
    fun args => .inl (stays_acted (answers_requireRole args)),
    fun args => .inl ((args.stays_withDefault _ _ _).bind fun _ => (answers_look _).bind fun _ =>
      .pure _ _),
    fun args => .inl (args.stays_limit.bind fun _ => (answers_look _).bind fun _ => .pure _ _),
    minds_http⟩

/-! ## Calls -/

/-- A selection by its name, with its arguments. -/
structure Call where
  name : String
  args : Args

namespace Call

def select (c : Call) : Select Json :=
  match selection? c.name with
  | some select => select c.args
  | none => throw .malformed

/-- The call is one of the commands that edit stops. -/
def EditsStops (c : Call) : Prop :=
  ∃ command ∈ RootSelection.stopCommands, splitName c.name = ("mutation", some command)

/-- What holds for each selection of a table holds for one that is looked up. -/
theorem of_lookup {P : RootSelection → Prop} {table : List (String × RootSelection)}
    (each : table.Forall fun named => P named.2) {name : String} {selection : RootSelection}
    (known : table.lookup name = some selection) : P selection :=
  List.forall_iff_forall_mem.mp each (name, selection) (Loader.mem_of_lookup known)

/-- A call consults the warehouse at most, or it remembers nothing of the warehouse and edits it;
then it leaves the zones as they are, or it edits stops. -/
theorem answers_or_remembers (c : Call) : Stays SameAnswers c.select ∨
    Stays SameMemory c.select ∧ (KeepsZones c.select ∨ c.EditsStops) := by
  unfold select
  cases known : selection? c.name with
  | none => exact .inl (.throw _ _)
  | some selection =>
    dsimp only
    unfold selection? at known
    split at known
    · -- A name without a point is that of an act, or else of a root selection.
      cases act : acts.lookup c.name with
      | some _ =>
        rw [act, Option.some_or] at known
        obtain rfl := Option.some.inj known
        have minds := of_lookup (P := fun act => ∀ args, Minds (act args)) acts_mind act c.args
        exact minds.imp_right (And.imp_right .inl)
      | none =>
        rw [act, Option.none_or] at known
        exact .inl (of_lookup RootSelection.reads_all known c.args).sameAnswers
    · next command split =>
      have member := Loader.mem_of_lookup known
      have remembers := List.forall_iff_forall_mem.mp RootSelection.commands_remember _ member
      refine .inr ⟨remembers c.args, ?_⟩
      rcases List.forall_iff_forall_mem.mp RootSelection.commands_keep _ member with keeps | edits
      · exact .inl (keeps c.args)
      · exact .inr ⟨command, edits, split⟩
    · exact .inl (of_lookup RootSelection.reads_realtime known c.args).sameAnswers
    · exact .inl (of_lookup RootSelection.reads_lookups known c.args).sameAnswers
    · obtain ⟨e, found, rfl⟩ := Option.map_eq_some_iff.mp known
      exact .inl (Entity.consults_select (List.mem_of_find?_eq_some found) _ c.args).sameAnswers

/-- A call leaves the zones as they are, or it edits stops and leaves what is remembered. -/
theorem keeps (c : Call) :
    KeepsZones c.select ∨ c.EditsStops ∧ Stays SameMemory c.select := by
  rcases c.answers_or_remembers with same | ⟨remembers, keeps | edits⟩
  · exact .inl (same.mono fun _ _ same => same.steady)
  · exact .inl keeps
  · exact .inr ⟨edits, remembers⟩

end Call

/-! ## Moves -/

inductive Move
  | alone (call : Call)
  | together (calls : List Call)

namespace Move

def select : Move → Select Json
  | .alone call => call.select
  | .together calls => Session.together (calls.map Call.select)

/-- The gateway after a move. -/
def after (g : Gateway) (m : Move) : Gateway := (m.select.run.run g).2

def calls : Move → List Call
  | .alone call => [call]
  | .together calls => calls

/-- The move edits no stops. -/
def Quiet (m : Move) : Prop := ∀ call ∈ m.calls, ¬ call.EditsStops

/-- Stops are edited one at a time. -/
def Orderly (m : Move) : Prop := (∃ call, m = .alone call) ∨ m.Quiet

/-- Calls that run together do what each of them may do alone. -/
theorem stays_together {R : Gateway → Gateway → Prop} (lasting : Gateway.Lasting R)
    {calls : List Call} (each : ∀ call ∈ calls, Stays R call.select) :
    Stays R (Move.together calls).select := by
  have within : ∀ t ∈ (calls.map Call.select).map Select.answer, t.Within R := by
    simp only [List.map_map, List.mem_map, Function.comp_apply, forall_exists_index, and_imp,
      forall_apply_eq_imp_iff₂]
    exact fun call member => (each call member).within
  exact (Select.stays_task (Task.within_update fun g =>
    Task.Within.runTogether lasting manyRounds within g)).bind fun _ => .pure _ _

theorem Quiet.keepsZones {m : Move} (quiet : m.Quiet) : KeepsZones m.select := by
  have keeps (call : Call) (member : call ∈ m.calls) : KeepsZones call.select :=
    call.keeps.resolve_right fun edits => quiet call member edits.1
  cases m with
  | alone call => exact keeps call (List.mem_singleton_self call)
  | together calls => exact stays_together lasting_steady keeps

theorem keeps {m : Move} (orderly : m.Orderly) :
    KeepsZones m.select ∨ Stays SameMemory m.select := by
  rcases orderly with ⟨call, rfl⟩ | quiet
  · exact call.keeps.imp_right And.right
  · exact .inl quiet.keepsZones

end Move

/-- A gateway after some moves, none of which changes what the warehouse says of a stop's zone. -/
inductive Undisturbed (id : Int) (g : Gateway) : Gateway → Prop
  | start : Undisturbed id g g
  | move {h : Gateway} {m : Move} (before : Undisturbed id g h) (orderly : m.Orderly)
      (kept : (m.after h).zoneOf id = h.zoneOf id) : Undisturbed id g (m.after h)

namespace Undisturbed

variable {id : Int} {g h : Gateway} {zone : Option Zone}

theorem quiet (before : Undisturbed id g h) {m : Move} (quiet : m.Quiet) :
    Undisturbed id g (m.after h) :=
  before.move (.inr quiet) ((quiet.keepsZones.run lasting_steady h).zoneOf id)

theorem settled_move {m : Move} (orderly : m.Orderly) (kept : (m.after g).zoneOf id = g.zoneOf id)
    (settled : g.Settled id zone) : (m.after g).Settled id zone := by
  rcases Move.keeps orderly with keeps | remembers
  · exact settled.steady (keeps.run lasting_steady g)
  · exact settled.sameMemory (remembers.run Gateway.lasting_sameMemory g) kept

theorem settled (undisturbed : Undisturbed id g h) (settled : g.Settled id zone) :
    h.Settled id zone := by
  induction undisturbed with
  | start => exact settled
  | move before orderly kept ih => exact settled_move orderly kept ih

end Undisturbed

end Session

end Transit
