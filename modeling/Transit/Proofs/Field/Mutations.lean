import Transit.Proofs.Field.StopCommands
import Transit.Proofs.Warehouse.Select
import Transit.Proofs.Warehouse.Versions
set_option autoImplicit false

/-!
# Commands that fail

A command that fails, for want of a role, of something in its input or of what it is about, leaves the
warehouse as it was, but for one: to unimport a version that is not imported takes it from the feeds
that have it as their active version (`Mutation.failed_keeps_or_deactivates`). In a consistent
warehouse there are no such feeds (`Mutation.failed_of_consistent`).
-/

namespace Transit

/-- A command that changes the warehouse. -/
inductive Mutation
  | edit (e : Edit)
  | importing (sha1 : String)
  | unimporting (sha1 : String)
  | deleting (sha1 : String)

namespace Mutation

abbrev Answer : Mutation → Type
  | .edit (.create t _) => t.Row
  | .edit (.update t _) => t.Row
  | .edit (.delete _ _) => DeleteResult
  | .importing _ => ImportResult
  | .unimporting _ => UnimportResult
  | .deleting _ => RemovalResult

def perform : (m : Mutation) → Resolve m.Answer
  | .edit (.create .stops input) => Command.createStop input
  | .edit (.create .levels input) => Command.createLevel input
  | .edit (.create .pathways input) => Command.createPathway input
  | .edit (.update .stops input) => Command.updateStop input
  | .edit (.update .levels input) => Command.updateLevel input
  | .edit (.update .pathways input) => Command.updatePathway input
  | .edit (.delete .stops id) => Command.deleteStop id
  | .edit (.delete .levels id) => Command.deleteLevel id
  | .edit (.delete .pathways id) => Command.deletePathway id
  | .importing sha1 => Command.importVersion sha1
  | .unimporting sha1 => Command.unimportVersion sha1
  | .deleting sha1 => Command.deleteVersion sha1

end Mutation

namespace Resolve

variable {α β : Type} {r : Resolve α} {f : α → Resolve β}

/-- Where the field fails it leaves the warehouse as it was. -/
def Atomic (r : Resolve α) : Prop :=
  ∀ g cause last, r.run.run g = (.error cause, last) → last.warehouse = g.warehouse

theorem Atomic.of_reads_bind (reads : r.Reads) (rest : ∀ a, (f a).Atomic) : (r >>= f).Atomic := by
  intro g cause last failed
  rcases run_bind_error failed with first | ⟨a, next, first, later⟩
  · exact reads.kept first
  · exact (rest a next cause last later).trans (reads.kept first)

/-- Nothing is left to fail once the warehouse has changed. -/
theorem Atomic.bind_of_ok (first : r.Atomic)
    (rest : ∀ g a next, r.run.run g = (.ok a, next) → ∃ b last, (f a).run.run next = (.ok b, last)) :
    (r >>= f).Atomic := by
  intro g cause last failed
  rcases run_bind_error failed with early | ⟨a, next, ran, later⟩
  · exact first g cause last early
  · obtain ⟨b, other, succeeds⟩ := rest g a next ran
    rw [later] at succeeds
    cases succeeds

end Resolve

namespace Command

variable {α : Type} {method : String} {change : Warehouse → Warehouse.Edited α} {g last : Gateway}

theorem run_edit (method : String) (change : Warehouse → Warehouse.Edited α) (g : Gateway) :
    (edit method change).run.run g = ((change g.warehouse).1.mapError (FieldError.ofLookup method),
      { g.record method with warehouse := (change g.warehouse).2 }) :=
  Resolve.run_on method _ g

theorem run_edit_ok {a : α} (made : (edit method change).run.run g = (.ok a, last)) :
    change g.warehouse = (.ok a, last.warehouse) := by
  rw [run_edit] at made
  obtain ⟨answer, rfl⟩ := Prod.mk.inj made
  cases ran : change g.warehouse with
  | mk result next =>
    rw [ran] at answer
    cases result with
    | error why => cases answer
    | ok a' =>
      obtain rfl := Except.ok.inj answer
      rfl

theorem run_edit_error {cause : FieldError}
    (failed : (edit method change).run.run g = (.error cause, last)) :
    ∃ why, change g.warehouse = (.error why, last.warehouse) := by
  rw [run_edit] at failed
  obtain ⟨answer, rfl⟩ := Prod.mk.inj failed
  cases ran : change g.warehouse with
  | mk result next =>
    rw [ran] at answer
    cases result with
    | error why => exact ⟨why, rfl⟩
    | ok a => cases answer

theorem atomic_edit (inert : ∀ w why next, change w = (.error why, next) → next = w) :
    (edit method change).Atomic := by
  intro g cause last failed
  obtain ⟨why, ran⟩ := run_edit_error failed
  exact inert _ _ _ ran

theorem run_reload {r : Reference} {entity : String} {id : Int} {row : r.Row}
    (found : r.find? g.warehouse id = some row) :
    ∃ last, (reload r entity id).run.run g = (.ok row, last) := by
  rw [reload, Resolve.run_bind_of_ok (Resolve.run_ask _ _ g), found]
  exact ⟨_, rfl⟩

/-- The row that was created or updated is there to be loaded, so the answer does not fail. -/
theorem atomic_reload_edit {t : Table} {e : Edit} (method : String)
    (found : ∀ w id next, e.run w = (.ok id, next) → id ∈ t.ids next) :
    (do reload t.reference t.entity (← edit method (e.run ·)) : Resolve t.Row).Atomic := by
  refine (atomic_edit fun w why next failed => Edit.run_error failed).bind_of_ok ?_
  intro g id next ran
  obtain ⟨row, isFound⟩ := Table.exists_find? (found _ _ _ (run_edit_ok ran))
  obtain ⟨last, loaded⟩ := run_reload isFound
  exact ⟨row, last, loaded⟩

theorem reads_requireId (id : Option Int) : (requireId id).Reads := by
  unfold requireId
  split
  · exact Resolve.reads_ofExcept (.error _)
  · exact Resolve.reads_ofExcept (.ok ())

theorem of_versionBySha1 {sha1 : String} {v : FeedVersion}
    (found : (versionBySha1 sha1).run.run g = (.ok v, last)) :
    v ∈ g.warehouse.feedVersions ∧ v.sha1 = sha1 := by
  rw [versionBySha1, Resolve.run_bind_of_ok (Resolve.run_ask _ _ g)] at found
  split at found
  · next picked isHead =>
    obtain rfl : picked = v := Except.ok.inj (Prod.mk.inj found).1
    obtain ⟨member, asked⟩ := Warehouse.mem_of_mem_select (List.mem_of_mem_head? isHead)
    simp only [Warehouse.asked, Option.all_some, Warehouse.feedVersionMatches, Match.equals,
      Bool.and_eq_true, beq_iff_eq] at asked
    obtain ⟨_, ⟨⟨⟨named, _⟩, _⟩, _⟩, _⟩ := asked
    exact ⟨member, named.symm⟩
  · cases found

theorem reads_versionBySha1 (sha1 : String) : (versionBySha1 sha1).Reads := by
  refine (Resolve.reads_ask _ _).bind fun found => ?_
  cases found.head? with
  | none => exact Resolve.reads_ofExcept (.error _)
  | some v => exact Resolve.reads_ofExcept (.ok v)

end Command

namespace Mutation

open Command

theorem perform_create (t : Table) (input : t.Input) : ∃ method, perform (.edit (.create t input)) =
    (do
      Resolve.requireRole Role.admin
      reload t.reference t.entity (← Command.edit method ((Edit.create t input).run ·))) := by
  cases t <;> exact ⟨_, rfl⟩

theorem perform_update (t : Table) (input : t.Input) : ∃ method, perform (.edit (.update t input)) =
    (do
      Resolve.requireRole Role.admin
      requireId (t.target input)
      reload t.reference t.entity (← Command.edit method ((Edit.update t input).run ·))) := by
  cases t <;> exact ⟨_, rfl⟩

theorem perform_delete (t : Table) (rowId : Int) : ∃ method change,
    (∀ w, (Edit.delete t rowId).run w = (change w).answering rowId) ∧
      perform (.edit (.delete t rowId)) =
        (do
          Resolve.requireRole Role.admin
          Command.edit method change
          return ⟨rowId⟩) := by
  cases t <;> exact ⟨_, _, fun _ => rfl, rfl⟩

theorem atomic_edit (e : Edit) : (perform (.edit e)).Atomic := by
  cases e with
  | create t input =>
    obtain ⟨method, same⟩ := perform_create t input
    rw [same]
    refine .of_reads_bind (Resolve.reads_requireRole _) fun _ => ?_
    exact atomic_reload_edit method fun w id next made => (Edit.run_ok made).2.mem_ids_create
  | update t input =>
    obtain ⟨method, same⟩ := perform_update t input
    rw [same]
    refine .of_reads_bind (Resolve.reads_requireRole _) fun _ => ?_
    refine .of_reads_bind (reads_requireId _) fun _ => ?_
    exact atomic_reload_edit method fun w id next made => (Edit.run_ok made).2.mem_ids_update
  | delete t rowId =>
    obtain ⟨method, change, answers, same⟩ := perform_delete t rowId
    rw [same]
    refine .of_reads_bind (Resolve.reads_requireRole _) fun _ => ?_
    refine (Command.atomic_edit fun w why next failed => ?_).bind_of_ok fun _ _ next _ => ?_
    · have failed : (Edit.delete t rowId).run w = (.error why, next) := by
        rw [answers, failed]
        rfl
      exact Edit.run_error failed
    · exact ⟨_, next, rfl⟩

/-- A command on a feed version fails for want of a role, because there is no such version, or as the
command on the warehouse does. -/
theorem onVersion_error {α : Type} {method sha1 : String} (command : Int → VersionCommand)
    {answer : α} {g last : Gateway} {cause : FieldError}
    (failed : (do
      Resolve.requireRole Role.admin
      let v ← versionBySha1 sha1
      Command.edit method ((command v.id).run ·)
      return answer : Resolve α).run.run g = (.error cause, last)) :
    last.warehouse = g.warehouse ∨ ∃ v ∈ g.warehouse.feedVersions, v.sha1 = sha1 ∧
      ∃ why, (command v.id).run g.warehouse = (.error why, last.warehouse) := by
  have role := Resolve.reads_requireRole Role.admin
  have version := reads_versionBySha1 sha1
  rcases Resolve.run_bind_error failed with refused | ⟨_, asked, allowed, failed⟩
  · exact .inl (role.kept refused)
  have same := role.kept allowed
  rcases Resolve.run_bind_error failed with unknown | ⟨v, next, found, failed⟩
  · exact .inl ((version.kept unknown).trans same)
  obtain ⟨member, named⟩ := of_versionBySha1 found
  rcases Resolve.run_bind_error failed with edited | ⟨_, _, _, failed⟩
  · obtain ⟨why, ran⟩ := run_edit_error edited
    rw [version.kept found, same] at ran
    exact .inr ⟨v, same ▸ member, named, why, ran⟩
  · cases failed

variable {m : Mutation} {g last : Gateway} {cause : FieldError}

theorem unchanged_or_unimport (ended : m.perform.run.run g = (.error cause, last)) :
    last.warehouse = g.warehouse ∨
      ∃ v ∈ g.warehouse.feedVersions, m = .unimporting v.sha1 ∧
        (∀ i ∈ g.warehouse.feedVersionImports, i.feedVersionId ≠ v.id) ∧
        last.warehouse = g.warehouse.deactivate v.id := by
  cases m with
  | edit e => exact .inl (atomic_edit e g cause last ended)
  | importing sha1 =>
    rcases onVersion_error .importing ended with same | ⟨v, _, _, why, ran⟩
    · exact .inl same
    · rcases VersionCommand.run_error ran with same | ⟨_, unimport, _⟩
      · exact .inl same
      · cases unimport
  | unimporting sha1 =>
    rcases onVersion_error .unimporting ended with same | ⟨v, member, rfl, why, ran⟩
    · exact .inl same
    · rcases VersionCommand.run_error ran with same | ⟨_, unimport, unimported, next⟩
      · exact .inl same
      · obtain rfl := VersionCommand.unimporting.inj unimport
        exact .inr ⟨v, member, rfl, unimported, next⟩
  | deleting sha1 =>
    rcases onVersion_error .deleting ended with same | ⟨v, _, _, why, ran⟩
    · exact .inl same
    · rcases VersionCommand.run_error ran with same | ⟨_, unimport, _⟩
      · exact .inl same
      · cases unimport

/-- A failed command leaves the warehouse as it was, unless it was to unimport a version that is not
imported, but that some feeds have as their active version: these have none afterwards. -/
theorem failed_keeps_or_deactivates (ended : m.perform.run.run g = (.error cause, last)) :
    last.warehouse = g.warehouse ∨
      ∃ v ∈ g.warehouse.feedVersions, m = .unimporting v.sha1 ∧
        (∀ i ∈ g.warehouse.feedVersionImports, i.feedVersionId ≠ v.id) ∧
        (∃ s ∈ g.warehouse.feedStates, s.feedVersionId = some v.id) ∧
        last.warehouse = g.warehouse.deactivate v.id := by
  rcases unchanged_or_unimport ended with same | ⟨v, member, unimport, unimported, next⟩
  · exact .inl same
  by_cases active : ∃ s ∈ g.warehouse.feedStates, s.feedVersionId = some v.id
  · exact .inr ⟨v, member, unimport, unimported, active, next⟩
  · refine .inl (next.trans (Warehouse.deactivate_of_not_active fun s inStates holds => ?_))
    exact active ⟨s, inStates, holds⟩

def stationGateway : Gateway :=
  ({ warehouse := .station, request := .start {} {} } : Gateway).startRequest
    { roles := [Role.admin] }

theorem failed_keeps_or_deactivates_of_unknown_stop :
    ∃ cause last, (perform (.edit (.delete .stops 5))).run.run stationGateway =
        (.error cause, last) ∧ last.warehouse = .station := by
  refine ⟨_, _, rfl, ?_⟩
  rcases failed_keeps_or_deactivates (m := .edit (.delete .stops 5)) (g := stationGateway) rfl
    with same | ⟨v, _, unimport, _⟩
  · exact same
  · cases unimport

/-- A feed has a version as its active one that is not imported. -/
def lapsedGateway : Gateway :=
  ({ warehouse := {
      feedVersions := [{ id := 5, feedId := 1, sha1 := "e535" }]
      feedStates := [{ id := 1, feedId := 1, feedVersionId := some 5 }] }
     request := .start {} {} } : Gateway).startRequest { roles := [Role.admin] }

theorem unimport_loses_active_version :
    ((perform (.unimporting "e535")).run.run lapsedGateway).1 = .error (.ofLookup
        "feed_version_unimport" (.invalidQuery "feed version 5 is not imported")) ∧
      ((perform (.unimporting "e535")).run.run lapsedGateway).2.warehouse.activeVersion? 1 ≠
        lapsedGateway.warehouse.activeVersion? 1 := by
  decide +kernel

/-- In a consistent warehouse active versions are imported, and no failed command changes it. -/
theorem failed_of_consistent (consistent : g.warehouse.Consistent)
    (ended : m.perform.run.run g = (.error cause, last)) : last.warehouse = g.warehouse := by
  rcases unchanged_or_unimport ended with same | ⟨v, _, _, unimported, next⟩
  · exact same
  · exact next.trans (consistent.deactivate_of_unimported unimported)

end Mutation

end Transit
