import Transit.Field.Agency
import Transit.Proofs.Gateway.FieldRows
set_option autoImplicit false

/-!
# The agencies of an operator

An operator lists the agencies that carry its onestop id, whichever versions they are in. So these
are the agencies of active versions exactly if no other agency is listed
(`Operator.agencies_active_iff`), and they are not where two versions of one feed carry the id.
-/

namespace Transit

theorem take_filter_eq_iff {α : Type} (keep : α → Bool) (xs : List α) (n : Nat) :
    xs.take n = (xs.filter keep).take n ↔ ∀ x ∈ xs.take n, keep x = true := by
  constructor
  · intro same x member
    rw [same] at member
    exact (List.mem_filter.mp (List.mem_of_mem_take member)).2
  · intro all
    induction xs generalizing n with
    | nil => rfl
    | cons x rest ih =>
      cases n with
      | zero => rfl
      | succ n =>
        rw [List.take_succ_cons] at all
        have kept := all x List.mem_cons_self
        have others := ih n fun y member => all y (List.mem_cons_of_mem _ member)
        rw [List.filter_cons_of_pos kept, List.take_succ_cons, List.take_succ_cons, others]

namespace Warehouse

variable {w : Warehouse} {a b : Agency} {feedId : Int}

/-- The feed of the version that an agency belongs to. -/
def feedOf? (w : Warehouse) (a : Agency) : Option Int :=
  (w.feedVersion? a.feedVersionId).map (·.feedId)

/-- The agency belongs to the active version of its feed. -/
def inActiveVersion (w : Warehouse) (a : Agency) : Bool :=
  (w.feedOf? a).any fun feedId => w.activeVersion? feedId == some a.feedVersionId

theorem inActiveVersion_iff (known : w.feedOf? a = some feedId) :
    w.inActiveVersion a = true ↔ w.activeVersion? feedId = some a.feedVersionId := by
  rw [inActiveVersion, known, Option.any_some, beq_iff_eq]

/-- A feed has no two active versions. -/
theorem same_active_version (ofA : w.feedOf? a = some feedId) (ofB : w.feedOf? b = some feedId)
    (activeA : w.inActiveVersion a = true) (activeB : w.inActiveVersion b = true) :
    a.feedVersionId = b.feedVersionId := by
  rw [inActiveVersion_iff ofA] at activeA
  rw [inActiveVersion_iff ofB, activeA] at activeB
  exact Option.some.inj activeB

end Warehouse

namespace Operator

variable {g : Gateway} {o : Operator}

theorem gathers_agencies : Relation.agenciesByOnestopId.Gathers (·.agencies)
    (fun _ id a => a.onestopId == id) fun w => w.agencyMatches :=
  ⟨fun _ _ => rfl, fun _ => Json.text_obj_ne_empty _⟩

def carriers (o : Operator) (w : Warehouse) : List Agency :=
  w.agencies.filter (·.onestopId == o.onestopId)

theorem run_agencies (ready : g.Ready (.many .agenciesByOnestopId)) (o : Operator) :
    (o.agencies.run.run g).1 = .ok ((o.carriers g.warehouse).take maxGroupLimit) :=
  Resolve.run_rows gathers_agencies ready o.onestopId none "agencies"

/-- What an operator should list. -/
def activeCarriers (o : Operator) (w : Warehouse) : List Agency :=
  ((o.carriers w).filter w.inActiveVersion).take maxGroupLimit

/-- Up to the limit every agency that carries the id is listed. So these are the agencies of active
versions exactly if all that are listed are, and never where two versions of one feed are among
them. -/
theorem agencies_active_iff (g : Gateway) (ready : g.Ready (.many .agenciesByOnestopId))
    (o : Operator) :
    ∃ rows, (o.agencies.run.run g).1 = .ok rows ∧
      rows = (o.carriers g.warehouse).take maxGroupLimit ∧
      (∀ a ∈ o.carriers g.warehouse, a ∈ rows ∨ rows.length = maxGroupLimit) ∧
      (rows = o.activeCarriers g.warehouse ↔
        ∀ a ∈ rows, g.warehouse.inActiveVersion a = true) ∧
      ∀ a ∈ rows, ∀ b ∈ rows, ∀ feedId, g.warehouse.feedOf? a = some feedId →
        g.warehouse.feedOf? b = some feedId → a.feedVersionId ≠ b.feedVersionId →
        rows ≠ o.activeCarriers g.warehouse := by
  have exact_iff := take_filter_eq_iff g.warehouse.inActiveVersion (o.carriers g.warehouse)
    maxGroupLimit
  refine ⟨_, run_agencies ready o, rfl, ?_, exact_iff, ?_⟩
  · intro a member
    by_cases fits : (o.carriers g.warehouse).length ≤ maxGroupLimit
    · left
      rwa [List.take_of_length_le fits]
    · right
      rw [List.length_take]
      omega
  · intro a inA b inB feedId ofA ofB differ same
    have active := exact_iff.mp same
    exact differ (Warehouse.same_active_version ofA ofB (active a inA) (active b inB))

/-- The second version of a feed is active. Both have an agency with the id o-a, and the second has
one with the id o-b. -/
def renewed : Warehouse where
  feedVersions := [{ id := 10, feedId := 1 }, { id := 11, feedId := 1 }]
  feedStates := [{ id := 1, feedId := 1, feedVersionId := some 11 }]
  agencies := [{ id := 1, feedVersionId := 10, onestopId := "o-a" },
    { id := 2, feedVersionId := 11, onestopId := "o-a" },
    { id := 3, feedVersionId := 11, onestopId := "o-b" }]

def ofA : Operator where
  onestopId := "o-a"

def ofB : Operator where
  onestopId := "o-b"

theorem agencies_active_iff_of_new :
    (Gateway.ofWarehouse renewed).Ready (.many .agenciesByOnestopId) ∧
      (ofB.agencies.run.run (Gateway.ofWarehouse renewed)).1 = .ok (ofB.activeCarriers renewed) ∧
      (ofB.activeCarriers renewed).map (·.id) = [3] := by
  have ready := Gateway.ready_ofWarehouse renewed (.many .agenciesByOnestopId)
  obtain ⟨rows, ran, listed, -, active, -⟩ :=
    agencies_active_iff (Gateway.ofWarehouse renewed) ready ofB
  have allActive : ∀ a ∈ (ofB.carriers renewed).take maxGroupLimit,
      renewed.inActiveVersion a = true := by decide
  rw [active.mpr (listed ▸ allActive)] at ran
  exact ⟨ready, ran, rfl⟩

/-- The agency of the version that is no longer active is listed. -/
theorem superseded_agency_listed :
    (ofA.agencies.run.run (Gateway.ofWarehouse renewed)).1 = .ok [
        { id := 1, feedVersionId := 10, onestopId := "o-a" },
        { id := 2, feedVersionId := 11, onestopId := "o-a" }] ∧
      renewed.inActiveVersion { id := 1, feedVersionId := 10, onestopId := "o-a" } = false ∧
      ofA.activeCarriers renewed = [{ id := 2, feedVersionId := 11, onestopId := "o-a" }] :=
  ⟨run_agencies (Gateway.ready_ofWarehouse renewed _) ofA, rfl, rfl⟩

end Operator

end Transit
