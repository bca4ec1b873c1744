import Mathlib.Data.List.Infix
import Transit.Proofs.Warehouse.Edits
set_option autoImplicit false

/-!
# The ends of pathways

A pathway is created between two stops that exist, but later edits do not look at its ends again: an
update may lead it elsewhere, and a stop may be deleted from under it. Of the nine edits these are
the only two that can leave a pathway without an end (`Edit.joined_run_iff`), so pathways have
their ends all along a run of edits if and only if each edit takes care itself
(`Warehouse.joined_iff_careful`).
-/

namespace Transit

namespace Warehouse

/-- Both ends of every pathway are stops that exist. -/
def Joined (w : Warehouse) : Prop :=
  ∀ p ∈ w.pathways, p.fromStopId ∈ Table.stops.ids w ∧ p.toStopId ∈ Table.stops.ids w

instance (w : Warehouse) : Decidable w.Joined :=
  inferInstanceAs (Decidable (∀ p ∈ w.pathways, _ ∧ _))

theorem Joined.mono {w next : Warehouse} (joined : w.Joined) (fewer : next.pathways ⊆ w.pathways)
    (kept : Table.stops.ids w ⊆ Table.stops.ids next) : next.Joined := by
  intro p member
  obtain ⟨begins, ends⟩ := joined p (fewer member)
  exact ⟨kept begins, kept ends⟩

end Warehouse

namespace Edit

/-- What an edit does not make sure of: the ends that it gives to a pathway are stops, and the stop
that it deletes is no end of a pathway. -/
def Careful (w : Warehouse) : Edit → Prop
  | .update .pathways input =>
    (∃ p ∈ w.pathways, input.id = some p.id) →
      (∀ id, input.fromStopId = some id → id ∈ Table.stops.ids w) ∧
        ∀ id, input.toStopId = some id → id ∈ Table.stops.ids w
  | .delete .stops id => ∀ p ∈ w.pathways, p.fromStopId ≠ id ∧ p.toStopId ≠ id
  | _ => True

variable {w next : Warehouse} {t : Table} {input : t.Input} {id rowId : Int}

theorem joined_create (joined : w.Joined) (admits : t.Admits w input)
    (makes : (create t input).Makes w id next) : next.Joined := by
  cases makes with
  | @create _ _ blank row starts fills =>
    cases t with
    | stops =>
      refine joined.mono (List.Subset.refl _) ?_
      rw [Table.ids_put_append]
      exact List.subset_append_left _ _
    | levels => exact joined
    | pathways =>
      obtain ⟨_, _, ⟨a, isFrom, begins⟩, ⟨b, isTo, ends⟩⟩ := admits
      have fills : input.Fills blank row := fills
      intro p member
      rcases List.mem_append.mp member with old | new
      · exact joined p old
      · obtain rfl := List.mem_singleton.mp new
        rw [fills.fromStopId.held _ begins, fills.toStopId.held _ ends]
        exact ⟨List.mem_map_of_mem isFrom, List.mem_map_of_mem isTo⟩

theorem joined_update (joined : w.Joined) (makes : (update t input).Makes w id next) :
    next.Joined ↔ (update t input).Careful w := by
  cases makes with
  | @update _ _ front back before after found first named fills =>
    cases t with
    | stops =>
      refine iff_of_true (joined.mono (List.Subset.refl _) ?_) trivial
      exact (Table.ids_put_replace found fills.rowId).symm ▸ List.Subset.refl (Table.stops.ids w)
    | levels => exact iff_of_true joined trivial
    | pathways =>
      have fills : input.Fills before after := fills
      have split : w.pathways = front ++ before :: back := found
      have member : before ∈ w.pathways := by simp [split]
      obtain ⟨begins, ends⟩ := joined before member
      have begins := fills.fromStopId.iff_of_before (P := (· ∈ Table.stops.ids w)) begins
      have ends := fills.toStopId.iff_of_before (P := (· ∈ Table.stops.ids w)) ends
      -- The other pathways are as before, and no stop has changed.
      constructor
      · intro after_joined _
        obtain ⟨isFrom, isTo⟩ := after_joined after (by simp [Table.put])
        exact ⟨begins.mp isFrom, ends.mp isTo⟩
      · intro careful p inNext
        obtain ⟨isFrom, isTo⟩ := careful ⟨before, member, named⟩
        rcases List.mem_append.mp inNext with inFront | inRest
        · exact joined p (by simp [split, inFront])
        · rcases List.mem_cons.mp inRest with rfl | inBack
          · exact ⟨begins.mpr isFrom, ends.mpr isTo⟩
          · exact joined p (by simp [split, inBack])

theorem joined_delete (joined : w.Joined) (makes : (delete t rowId).Makes w id next) :
    next.Joined ↔ (delete t rowId).Careful w := by
  cases makes with
  | delete found =>
    cases t with
    | stops =>
      have kept : ∀ n, n ∈ Table.stops.ids (Table.stops.put w (w.stops.filter (·.id != id))) ↔
          n ∈ Table.stops.ids w ∧ n ≠ id := by
        intro n
        rw [Table.ids_put]
        simp only [Table.ids, Table.rows, Table.rowId, List.mem_map, List.mem_filter, bne_iff_ne]
        constructor
        · rintro ⟨s, ⟨member, other⟩, rfl⟩
          exact ⟨⟨s, member, rfl⟩, other⟩
        · rintro ⟨⟨s, member, rfl⟩, other⟩
          exact ⟨s, ⟨member, other⟩, rfl⟩
      constructor
      · intro next_joined p member
        obtain ⟨begins, ends⟩ := next_joined p member
        exact ⟨((kept _).mp begins).2, ((kept _).mp ends).2⟩
      · intro careful p member
        obtain ⟨begins, ends⟩ := joined p member
        obtain ⟨notFrom, notTo⟩ := careful p member
        exact ⟨(kept _).mpr ⟨begins, notFrom⟩, (kept _).mpr ⟨ends, notTo⟩⟩
    | levels => exact iff_of_true joined trivial
    | pathways =>
      refine iff_of_true (joined.mono ?_ (List.Subset.refl _)) trivial
      exact List.filter_sublist.subset

/-- An update that finds no pathway and a delete that finds no stop do no harm. -/
theorem careful_of_not_permitted {e : Edit} (joined : w.Joined) (refused : ¬ e.Permitted w) :
    e.Careful w := by
  cases e with
  | create t input => trivial
  | update t input =>
    cases t with
    | stops => trivial
    | levels => trivial
    | pathways => exact fun found => absurd found refused
  | delete t id =>
    cases t with
    | stops =>
      have unknown : id ∉ Table.stops.ids w := fun known => refused (List.mem_map.mp known)
      intro p member
      obtain ⟨begins, ends⟩ := joined p member
      exact ⟨ne_of_mem_of_not_mem begins unknown, ne_of_mem_of_not_mem ends unknown⟩
    | levels => trivial
    | pathways => trivial

/-- An edit leaves every pathway with its ends if and only if it takes care of them. -/
theorem joined_run_iff (joined : w.Joined) (e : Edit) : (e.run w).2.Joined ↔ e.Careful w := by
  cases ran : e.run w with
  | mk answer next =>
    cases answer with
    | error cause =>
      obtain ⟨refused, rfl⟩ := run_refused ran
      exact iff_of_true joined (careful_of_not_permitted joined refused)
    | ok id =>
      obtain ⟨permitted, makes⟩ := run_ok ran
      cases e with
      | create t input => exact iff_of_true (joined_create joined permitted makes) trivial
      | update t input => exact joined_update joined makes
      | delete t rowId =>
        exact joined_delete joined makes

end Edit

namespace Warehouse

/-- Pathways have their ends all along a run of edits if and only if each edit takes care of them. -/
theorem joined_iff_careful {w : Warehouse} {edits : List Edit} (joined : w.Joined) :
    (∀ done, done <+: edits → (w.afterEdits done).Joined) ↔
      ∀ done e rest, edits = done ++ e :: rest → e.Careful (w.afterEdits done) := by
  constructor
  · rintro all done e rest rfl
    have before := all done (List.prefix_append _ _)
    have after := all (done ++ [e]) ⟨rest, by simp⟩
    rw [afterEdits_concat] at after
    exact (Edit.joined_run_iff before e).mp after
  · intro careful
    refine afterEdits_induction joined ?_
    intro done e rest split before
    exact (Edit.joined_run_iff before e).mpr (careful done e rest split)

def stationDetour : List Edit := [
  .create .stops { feedVersionId := some 1, stopId := some "exit" },
  .update .pathways { id := some 1, toStopId := some 9 },
  .delete .stops 8]

theorem joined_iff_careful_of_station :
    station.Joined ∧ (∀ done, done <+: stationDetour → (station.afterEdits done).Joined) ∧
      (Edit.delete .stops 8).Careful (station.afterEdits (stationDetour.take 2)) := by
  have joined : station.Joined := by decide
  have all : ∀ done, done <+: stationDetour → (station.afterEdits done).Joined := by
    have each : ∀ done ∈ stationDetour.inits, (station.afterEdits done).Joined := by decide
    exact fun done before => each done ((List.mem_inits _ _).mpr before)
  exact ⟨joined, all, (joined_iff_careful joined).mp all (stationDetour.take 2) _ [] rfl⟩

/-- The way to the platform leads nowhere after an update to a stop that does not exist, and after
the platform is deleted. -/
theorem pathway_left_without_end :
    station.Joined ∧
      ¬ (station.afterEdits [.update .pathways { id := some 1, toStopId := some 99 }]).Joined ∧
      ¬ (station.afterEdits [.delete .stops 8]).Joined := by
  decide

end Warehouse

end Transit
