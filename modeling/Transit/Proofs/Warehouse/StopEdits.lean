import Transit.Cursor
import Transit.Proofs.Warehouse.Edits
set_option autoImplicit false

/-!
# Edits of stops

Whatever stop is created, updated or deleted, no other table changes, and as long as ids stay in the
range of cursors they go on to tell the stops apart (`StopEdit.apply_spec`).
-/

namespace Transit

inductive StopEdit
  | create (input : StopSetInput)
  | update (input : StopSetInput)
  | delete (id : Int)

namespace Warehouse

/-- All ids of stops are positive and fit into a cursor. -/
def StopsFit (w : Warehouse) : Prop :=
  ∀ s ∈ w.stops, 0 < s.id ∧ s.id ≤ Cursor.maxValue

/-- Cursors end well before the last id. -/
theorem StopsFit.words {w : Warehouse} (fit : w.StopsFit) :
    ∀ n ∈ Table.stops.ids w, Number.Range.int64.holds n = true ∧ n ≠ Number.Range.int64.hi := by
  intro n member
  obtain ⟨s, inStops, rfl⟩ := List.mem_map.mp member
  obtain ⟨positive, fits⟩ := fit s inStops
  change Number.Range.int64.holds s.id = true ∧ s.id ≠ Number.Range.int64.hi
  rw [Number.Range.holds_iff]
  simp only [Number.Range.int64, Cursor.maxValue] at *
  omega

end Warehouse

namespace StopEdit

/-- The warehouse after an edit, also after one that has failed. -/
def apply (w : Warehouse) : StopEdit → Warehouse
  | .create input => (w.createStop input).2
  | .update input => (w.updateStop input).2
  | .delete id => (w.deleteStop id).2

def toEdit : StopEdit → Edit
  | .create input => .create .stops input
  | .update input => .update .stops input
  | .delete id => .delete .stops id

theorem apply_eq_run (w : Warehouse) (e : StopEdit) : e.apply w = (e.toEdit.run w).2 := by
  cases e <;> rfl

theorem exists_stops {w next : Warehouse} {e : StopEdit} {id : Int}
    (makes : e.toEdit.Makes w id next) : ∃ stops, next = { w with stops } := by
  cases e <;> cases makes <;> exact ⟨_, rfl⟩

/-- Edits of stops change the stops only, and never make two of them share an id. -/
theorem apply_spec (w : Warehouse) (e : StopEdit) :
    ∃ stops, e.apply w = { w with stops } ∧
      (w.StopsFit → (w.stops.map (·.id)).Nodup → (stops.map (·.id)).Nodup) := by
  rw [apply_eq_run]
  cases ran : e.toEdit.run w with
  | mk answer next =>
    cases answer with
    | error cause =>
      obtain rfl := Edit.run_error ran
      exact ⟨_, rfl, fun _ distinct => distinct⟩
    | ok id =>
      have makes := (Edit.run_ok ran).2
      obtain ⟨stops, rfl⟩ := exists_stops makes
      refine ⟨stops, rfl, fun fit distinct => ?_⟩
      have words := fit.words
      exact makes.nodup (u := .stops) (fun n member => (words n member).1)
        (fun last => (words _ last).2 rfl) distinct

end StopEdit

end Transit
