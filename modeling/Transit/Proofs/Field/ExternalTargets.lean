import Transit.Field.Stop
import Transit.Proofs.Gateway.FieldRows
set_option autoImplicit false

/-!
# Where external references lead

The target of a reference is looked up by the stop to which the reference belongs, and the first
active reference of a stop stands for all of them. So a reference leads to its own target exactly if
it refers to the same stops as the first one (`StopExternalReference.target_own_iff`).
-/

namespace Transit

namespace Warehouse

variable {w : Warehouse} {r first : StopExternalReference} {s t : Stop} {found : Option Stop}

/-- The active version of the feed that a reference names. -/
def targetVersion? (w : Warehouse) (r : StopExternalReference) : Option Int := do
  w.activeVersion? (← w.feedByOnestopId? r.targetFeedOnestopId).id

structure Refers (w : Warehouse) (r : StopExternalReference) (s : Stop) : Prop where
  held : s ∈ w.stops
  named : s.stopId = r.targetStopId
  active : w.targetVersion? r = some s.feedVersionId

/-- What a reference should lead to: a stop that it refers to, or nothing if there is none. -/
inductive Target (w : Warehouse) (r : StopExternalReference) : Option Stop → Prop
  | stop {s : Stop} (refers : w.Refers r s) : Target w r (some s)
  | nothing (nowhere : ∀ s, ¬ w.Refers r s) : Target w r none

def activeReference? (w : Warehouse) (stopId : Int) : Option StopExternalReference :=
  w.stopExternalReferences.find? fun r => r.stopId == stopId && !r.inactive

/-- The first stop that a reference refers to. -/
def target? (w : Warehouse) (r : StopExternalReference) : Option Stop := do
  let version ← w.targetVersion? r
  w.stops.find? fun s => s.feedVersionId == version && s.stopId == r.targetStopId

theorem targetStop?_of_first {stopId : Int} (isFirst : w.activeReference? stopId = some first) :
    w.targetStop? stopId = w.target? first := by
  unfold activeReference? at isFirst
  simp only [targetStop?, isFirst, Option.bind_eq_bind, Option.bind_some, target?, targetVersion?,
    Option.bind_assoc]

theorem target_target? (w : Warehouse) (r : StopExternalReference) : w.Target r (w.target? r) := by
  cases known : w.target? r with
  | some s =>
    obtain ⟨version, active, found⟩ := Option.bind_eq_some_iff.mp known
    have fits := List.find?_some found
    simp only [Bool.and_eq_true, beq_iff_eq] at fits
    obtain ⟨rfl, named⟩ := fits
    exact .stop ⟨List.mem_of_find?_eq_some found, named, active⟩
  | none =>
    refine .nothing ?_
    intro s refers
    simp only [target?, refers.active, Option.bind_eq_bind, Option.bind_some] at known
    have differs := List.find?_eq_none.mp known s refers.held
    simp [refers.named] at differs

theorem Refers.iff (refers : w.Refers r s) :
    w.Refers r t ↔ t ∈ w.stops ∧ t.stopId = s.stopId ∧ t.feedVersionId = s.feedVersionId := by
  constructor
  · intro also
    have sameVersion := also.active.symm.trans refers.active
    exact ⟨also.held, also.named.trans refers.named.symm, Option.some.inj sameVersion⟩
  · rintro ⟨held, sameName, sameVersion⟩
    exact ⟨held, sameName.trans refers.named, sameVersion ▸ refers.active⟩

/-- What one reference leads to is what another should lead to just if both refer to the same
stops. -/
theorem Target.iff_same (leads : w.Target first found) :
    w.Target r found ↔ ∀ s, w.Refers r s ↔ w.Refers first s := by
  cases leads with
  | stop refers =>
    constructor
    · intro own t
      -- A stop that both refer to settles the name and the version for both.
      cases own with
      | stop also => rw [refers.iff, also.iff]
    · intro same
      exact .stop ((same _).mpr refers)
  | nothing nowhere =>
    constructor
    · intro own s
      cases own with
      | nothing also => exact iff_of_false (also s) (nowhere s)
    · intro same
      refine .nothing ?_
      intro s refers
      exact nowhere s ((same s).mp refers)

theorem activeReference?_of_mem (held : r ∈ w.stopExternalReferences)
    (active : r.inactive = false) : ∃ first, w.activeReference? r.stopId = some first := by
  apply Option.isSome_iff_exists.mp
  rw [activeReference?, List.find?_isSome]
  exact ⟨r, held, by simp [active]⟩

/-- The first reference of a stop is the first active one, if it is active. -/
theorem activeReference?_of_first
    (isFirst : Reference.externalReference.find? w r.stopId = some r)
    (active : r.inactive = false) : w.activeReference? r.stopId = some r := by
  obtain ⟨-, before, after, split, earlier⟩ := List.find?_eq_some_iff_append.mp isFirst
  refine List.find?_eq_some_iff_append.mpr ⟨by simp [active], before, after, split, ?_⟩
  intro other inFront
  have differs : other.stopId ≠ r.stopId := by simpa using earlier other inFront
  simp [differs]

end Warehouse

namespace StopExternalReference

variable {g : Gateway} {r : StopExternalReference}

open Warehouse

theorem run_targetActiveStop (ready : g.Ready (.one .targetStop)) (active : r.inactive = false) :
    (r.targetActiveStop.run.run g).1 = .ok (g.warehouse.targetStop? r.stopId) := by
  rw [targetActiveStop, if_neg (by simp [active])]
  exact Resolve.run_row ready r.stopId "target_active_stop"

/-- Every active reference gets what the first active reference of its stop leads to. This is what
it should lead to itself exactly if both refer to the same stops, as is the case for the reference
that its stop shows. -/
theorem target_own_iff (g : Gateway) (ready : g.Ready (.one .targetStop))
    (r : StopExternalReference) (held : r ∈ g.warehouse.stopExternalReferences)
    (active : r.inactive = false) :
    ∃ first found, g.warehouse.activeReference? r.stopId = some first ∧
      (r.targetActiveStop.run.run g).1 = .ok found ∧ g.warehouse.Target first found ∧
      (g.warehouse.Target r found ↔ ∀ s, g.warehouse.Refers r s ↔ g.warehouse.Refers first s) ∧
      (Reference.externalReference.find? g.warehouse r.stopId = some r →
        g.warehouse.Target r found) := by
  obtain ⟨first, isFirst⟩ := activeReference?_of_mem held active
  have leads := target_target? g.warehouse first
  refine ⟨first, g.warehouse.target? first, isFirst, ?_, leads, leads.iff_same, ?_⟩
  · rw [run_targetActiveStop ready active, targetStop?_of_first isFirst]
  · intro shown
    have itself := activeReference?_of_first shown active
    obtain rfl := Option.some.inj (isFirst.symm.trans itself)
    exact leads

def toX : StopExternalReference where
  id := 1
  stopId := 7
  targetFeedOnestopId := "BA"
  targetStopId := "X"

def toY : StopExternalReference where
  id := 2
  stopId := 7
  targetFeedOnestopId := "BB"
  targetStopId := "Y"

/-- One stop refers to a stop of each of two feeds. -/
def twoTargets : Warehouse where
  feeds := [{ id := 1, onestopId := "BA" }, { id := 2, onestopId := "BB" }]
  feedStates := [{ id := 1, feedId := 1, feedVersionId := some 10 },
    { id := 2, feedId := 2, feedVersionId := some 20 }]
  stops := [{ id := 101, feedVersionId := 10, stopId := "X" },
    { id := 201, feedVersionId := 20, stopId := "Y" }]
  stopExternalReferences := [toX, toY]

theorem target_own_iff_of_shown :
    (Gateway.ofWarehouse twoTargets).Ready (.one .targetStop) ∧
      toX ∈ twoTargets.stopExternalReferences ∧ toX.inactive = false ∧
      (toX.targetActiveStop.run.run (Gateway.ofWarehouse twoTargets)).1 =
        .ok (some { id := 101, feedVersionId := 10, stopId := "X" }) ∧
      twoTargets.Refers toX { id := 101, feedVersionId := 10, stopId := "X" } := by
  have ready := Gateway.ready_ofWarehouse twoTargets (.one .targetStop)
  have held : toX ∈ twoTargets.stopExternalReferences := List.mem_cons_self
  obtain ⟨first, found, -, ran, -, -, shown⟩ :=
    target_own_iff (Gateway.ofWarehouse twoTargets) ready toX held rfl
  have isX : found = some { id := 101, feedVersionId := 10, stopId := "X" } := by
    rw [run_targetActiveStop ready rfl] at ran
    exact (Except.ok.inj ran).symm
  subst isX
  cases shown rfl with
  | stop refers => exact ⟨ready, held, rfl, ran, refers⟩

/-- The second reference of the stop gets the target of the first one. -/
theorem second_gets_first_target :
    toY ∈ twoTargets.stopExternalReferences ∧ toY.inactive = false ∧
      twoTargets.Refers toY { id := 201, feedVersionId := 20, stopId := "Y" } ∧
      (toY.targetActiveStop.run.run (Gateway.ofWarehouse twoTargets)).1 =
        .ok (some { id := 101, feedVersionId := 10, stopId := "X" }) ∧
      ¬ twoTargets.Target toY (some { id := 101, feedVersionId := 10, stopId := "X" }) := by
  refine ⟨by simp [twoTargets], rfl, ⟨by simp [twoTargets], rfl, rfl⟩, ?_, ?_⟩
  · exact run_targetActiveStop (Gateway.ready_ofWarehouse twoTargets _) rfl
  · intro own
    cases own with
    | stop refers => exact absurd refers.named (by decide)

end StopExternalReference

end Transit
