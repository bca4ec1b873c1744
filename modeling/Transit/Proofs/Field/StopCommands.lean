import Transit.Field.Command
import Transit.Proofs.Gateway.Running
import Transit.Proofs.Warehouse.StopEdits
set_option autoImplicit false

/-!
# Commands on stops

Administrators edit stops by commands, each in a request of its own. A command makes its edit or, if
the user may not give it, nothing (`StopCommand.run_spec`). Ids go on to tell stops apart under
commands as long as they fit into cursors (`Warehouse.obey_nodup`).
-/

namespace Transit

/-- An edit of stops that a user asks for. -/
structure StopCommand where
  user : User
  edit : StopEdit

/-- The gateway after a command. -/
def StopCommand.run (g : Gateway) (c : StopCommand) : Gateway :=
  let g := g.startRequest c.user
  match c.edit with
  | .create input => ((Command.createStop input).run.run g).2
  | .update input => ((Command.updateStop input).run.run g).2
  | .delete id => ((Command.deleteStop id).run.run g).2

/-- The gateway after some commands, one after another. -/
def Gateway.obey (g : Gateway) (commands : List StopCommand) : Gateway :=
  commands.foldl StopCommand.run g

/-- What a command makes of the warehouse. -/
def StopCommand.effect (w : Warehouse) (c : StopCommand) : Warehouse :=
  if c.user.hasRole Role.admin then c.edit.apply w else w

def Warehouse.obey (w : Warehouse) (commands : List StopCommand) : Warehouse :=
  commands.foldl StopCommand.effect w

/-! ## Runs of commands -/

namespace Command

theorem edit_changes {α : Type} (method : String) (change : Warehouse → Warehouse.Edited α) :
    (edit method change).Changes fun w => (change w).2 := by
  have ran := Resolve.run_on method (Task.update fun g =>
    ((change g.warehouse).1, { g.record method with warehouse := (change g.warehouse).2 }))
  exact ⟨fun g => congrArg (·.2.warehouse) (ran g), fun g => congrArg (·.2.settings) (ran g)⟩

theorem reads_reload (r : Reference) (entity : String) (id : Int) : (reload r entity id).Reads := by
  refine (Resolve.reads_ask _ _).bind fun found => ?_
  cases found with
  | none => exact Resolve.reads_ofExcept (.error _)
  | some row => exact Resolve.reads_ofExcept (.ok row)

/-- Without an id there is nothing to update. -/
theorem update_changes (input : StopSetInput) :
    (do
      requireId input.id
      reload .stop "stop" (← edit "stop_update" (·.updateStop input))).Changes
      fun w => (w.updateStop input).2 := by
  cases given : input.id with
  | none =>
    have unchanged : ∀ w : Warehouse, (w.updateStop input).2 = w := by
      intro w
      rw [Warehouse.updateStop, given]
      rfl
    simp only [unchanged]
    exact Resolve.reads_ofExcept (.error _)
  | some id =>
    have changes := edit_changes "stop_update" (·.updateStop input)
    exact changes.bind fun _ => reads_reload _ _ _

theorem run_guarded {α : Type} {rest : Resolve α} {change : Warehouse → Warehouse}
    (changes : rest.Changes change) (role : String) (g : Gateway) :
    let last := ((do Resolve.requireRole role; rest : Resolve α).run.run g).2
    last.warehouse = (if g.request.user.hasRole role then change g.warehouse else g.warehouse) ∧
      last.settings = g.settings := by
  dsimp only
  rw [Resolve.run_bind, Resolve.run_requireRole, User.requireRole]
  cases g.request.user.hasRole role with
  | true => exact ⟨changes.warehouse g, changes.settings g⟩
  | false => exact ⟨rfl, rfl⟩

end Command

theorem StopCommand.run_spec (g : Gateway) (c : StopCommand) :
    (c.run g).warehouse = c.effect g.warehouse ∧ (c.run g).settings = g.settings := by
  obtain ⟨user, e⟩ := c
  cases e with
  | create input =>
    have changes := (Command.edit_changes "stop_create" (·.createStop input)).bind
      fun id => Command.reads_reload .stop "stop" id
    exact Command.run_guarded changes Role.admin (g.startRequest user)
  | update input =>
    exact Command.run_guarded (Command.update_changes input) Role.admin (g.startRequest user)
  | delete id =>
    have changes := (Command.edit_changes "stop_delete" (·.deleteStop id)).bind
      fun _ => Resolve.reads_ofExcept (.ok (DeleteResult.mk id))
    exact Command.run_guarded changes Role.admin (g.startRequest user)

theorem Gateway.obey_spec (g : Gateway) (commands : List StopCommand) :
    (g.obey commands).warehouse = g.warehouse.obey commands ∧
      (g.obey commands).settings = g.settings := by
  induction commands generalizing g with
  | nil => exact ⟨rfl, rfl⟩
  | cons c rest ih =>
    obtain ⟨warehouse, settings⟩ := ih (c.run g)
    obtain ⟨first, same⟩ := c.run_spec g
    rw [first] at warehouse
    exact ⟨warehouse, settings.trans same⟩

/-! ## Stops under commands -/

namespace Warehouse

theorem effect_spec (w : Warehouse) (c : StopCommand) :
    ∃ stops, c.effect w = { w with stops } ∧
      (w.StopsFit → (w.stops.map (·.id)).Nodup → (stops.map (·.id)).Nodup) := by
  unfold StopCommand.effect
  split
  · exact c.edit.apply_spec w
  · exact ⟨w.stops, rfl, fun _ distinct => distinct⟩

theorem obey_eq (w : Warehouse) (commands : List StopCommand) :
    ∃ stops, w.obey commands = { w with stops } := by
  induction commands generalizing w with
  | nil => exact ⟨w.stops, rfl⟩
  | cons c rest ih =>
    obtain ⟨stops, first, _⟩ := w.effect_spec c
    obtain ⟨later, others⟩ := ih { w with stops }
    refine ⟨later, ?_⟩
    rw [obey, List.foldl_cons, first]
    exact others

/-- Ids go on to tell stops apart if they fit into cursors all the time. -/
theorem obey_nodup {w : Warehouse} {commands : List StopCommand}
    (fit : ∀ done, done <+: commands → (w.obey done).StopsFit)
    (distinct : (w.stops.map (·.id)).Nodup) : ((w.obey commands).stops.map (·.id)).Nodup := by
  induction commands generalizing w with
  | nil => exact distinct
  | cons c rest ih =>
    obtain ⟨stops, first, keeps⟩ := w.effect_spec c
    have kept := keeps (fit [] List.nil_prefix) distinct
    have next : (c.effect w).stops = stops := by rw [first]
    refine ih (fun done before => ?_) (next ▸ kept)
    exact fit (c :: done) (List.cons_prefix_cons.mpr ⟨rfl, before⟩)

end Warehouse

end Transit
