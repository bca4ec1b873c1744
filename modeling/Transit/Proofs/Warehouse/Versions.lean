import Mathlib.Data.List.Infix
import Transit.Proofs.Warehouse.Edits
set_option autoImplicit false

/-!
# The life of feed versions

A feed version is imported, which makes it the active one of its feed, unimported and deleted. In a
consistent warehouse the active versions are versions of their feeds, and imported. Commands keep it
so (`Warehouse.versions_consistent`). A delete does not look at the active versions, and need not: an
active version is imported, and an imported one is not deleted.

A failed command leaves the warehouse as it was, with one exception: an unimport takes a version from
the feeds that have it as their active one before it is known whether the version was imported
(`VersionCommand.run_error`).
-/

namespace Transit

inductive VersionCommand
  | importing (versionId : Int)
  | unimporting (versionId : Int)
  | deleting (versionId : Int)
  deriving DecidableEq, Repr

namespace VersionCommand

def run (w : Warehouse) : VersionCommand → Warehouse.Edited Unit
  | .importing versionId => w.importVersion versionId
  | .unimporting versionId => w.unimportVersion versionId
  | .deleting versionId => w.deleteVersion versionId

end VersionCommand

namespace Warehouse

/-- Versions differ in their ids, an active version is a version of its feed and imported, and no
version is imported twice. -/
structure Consistent (w : Warehouse) : Prop where
  distinct : (w.feedVersions.map (·.id)).Nodup
  owned : ∀ s ∈ w.feedStates, ∀ versionId, s.feedVersionId = some versionId →
    ∃ v ∈ w.feedVersions, v.id = versionId ∧ v.feedId = s.feedId
  imported : ∀ s ∈ w.feedStates, ∀ versionId, s.feedVersionId = some versionId →
    ∃ i ∈ w.feedVersionImports, i.feedVersionId = versionId
  once : (w.feedVersionImports.map (·.feedVersionId)).Nodup

instance (w : Warehouse) : Decidable w.Consistent :=
  decidable_of_iff
    ((w.feedVersions.map (·.id)).Nodup ∧
      (∀ s ∈ w.feedStates, ∀ versionId ∈ s.feedVersionId,
        ∃ v ∈ w.feedVersions, v.id = versionId ∧ v.feedId = s.feedId) ∧
      (∀ s ∈ w.feedStates, ∀ versionId ∈ s.feedVersionId,
        ∃ i ∈ w.feedVersionImports, i.feedVersionId = versionId) ∧
      (w.feedVersionImports.map (·.feedVersionId)).Nodup)
    ⟨fun ⟨distinct, owned, imported, once⟩ => ⟨distinct, owned, imported, once⟩,
      fun c => ⟨c.distinct, c.owned, c.imported, c.once⟩⟩

/-- The warehouse after some commands, one after another; some of them may have failed. -/
def afterVersions (w : Warehouse) (commands : List VersionCommand) : Warehouse :=
  commands.foldl (fun w c => (c.run w).2) w

/-- No feed has the version as its active one any more. -/
def deactivate (w : Warehouse) (versionId : Int) : Warehouse :=
  { w with feedStates := w.feedStates.map fun s =>
      if s.feedVersionId == some versionId then { s with feedVersionId := none } else s }

variable {w next : Warehouse} {feedId versionId : Int}

theorem of_feedVersion? {v : FeedVersion} (found : w.feedVersion? versionId = some v) :
    v ∈ w.feedVersions ∧ v.id = versionId := by
  have found : w.feedVersions.find? (·.id == versionId) = some v := found
  have named := List.find?_some found
  exact ⟨List.mem_of_find?_eq_some found, beq_iff_eq.mp named⟩

/-! ## Active versions -/

/-- A version is made active in the first state of its feed, and if there is none in a new one. -/
theorem exists_activate (w : Warehouse) (feedId versionId : Int) :
    ∃ front state back,
      w.activate feedId versionId = { w with feedStates := front ++ state :: back } ∧
      (∀ s ∈ front, s ∈ w.feedStates ∧ s.feedId ≠ feedId) ∧ (∀ s ∈ back, s ∈ w.feedStates) ∧
      state.feedId = feedId ∧ state.feedVersionId = some versionId := by
  unfold activate
  split
  · next known =>
    obtain ⟨front, state, back, split, others, here, changed⟩ :=
      exists_changeFirst (List.any_eq_true.mp known)
        fun s : FeedState => { s with feedVersionId := some versionId }
    refine ⟨front, { state with feedVersionId := some versionId }, back,
      congrArg (fun feedStates => { w with feedStates }) changed, fun s member => ?_,
      fun s member => by simp [split, member], beq_iff_eq.mp here, rfl⟩
    exact ⟨by simp [split, member], ne_of_beq_false (others s member)⟩
  · next unknown =>
    refine ⟨w.feedStates, _, [], rfl, fun s member => ⟨member, fun same => ?_⟩, by simp, rfl, rfl⟩
    exact unknown (List.any_eq_true.mpr ⟨s, member, beq_iff_eq.mpr same⟩)

theorem activeVersion?_activate (w : Warehouse) (feedId versionId : Int) :
    (w.activate feedId versionId).activeVersion? feedId = some versionId := by
  obtain ⟨front, state, back, next, others, _, here, active⟩ := w.exists_activate feedId versionId
  have none : front.find? (·.feedId == feedId) = none :=
    List.find?_eq_none.mpr fun s member same => (others s member).2 (beq_iff_eq.mp same)
  have first : (state :: back).find? (·.feedId == feedId) = some state :=
    List.find?_cons_of_pos (beq_iff_eq.mpr here)
  rw [next, activeVersion?, List.find?_append, none, Option.none_or, first]
  exact active

/-! ## What commands keep -/

theorem Consistent.importVersion (consistent : w.Consistent) (versionId : Int) :
    (w.importVersion versionId).2.Consistent := by
  unfold Warehouse.importVersion
  cases found : w.feedVersion? versionId with
  | none => exact consistent
  | some version =>
    dsimp only
    generalize nextId _ = importId
    obtain ⟨front, state, back, next, inFront, inBack, here, active⟩ := exists_activate
      { w with feedVersionImports := w.feedVersionImports.filter (·.feedVersionId != versionId) ++
          [{ id := importId, feedVersionId := versionId, success := true }] }
      version.feedId versionId
    rw [next]
    -- All states are old ones but that of the feed, which has the version now.
    have states : ∀ s ∈ front ++ state :: back, s ∈ w.feedStates ∨ s = state := by
      intro s member
      rcases List.mem_append.mp member with before | rest
      · exact .inl (inFront s before).1
      · rcases List.mem_cons.mp rest with same | after
        · exact .inr same
        · exact .inl (inBack s after)
    refine ⟨consistent.distinct, ?owned, ?imported, ?once⟩
    case owned =>
      intro s member u holds
      rcases states s member with old | rfl
      · exact consistent.owned s old u holds
      · obtain rfl : versionId = u := Option.some.inj (active.symm.trans holds)
        obtain ⟨inVersions, named⟩ := of_feedVersion? found
        exact ⟨version, inVersions, named, here.symm⟩
    case imported =>
      intro s member u holds
      by_cases isNew : u = versionId
      · exact ⟨_, List.mem_append_right _ List.mem_cons_self, isNew.symm⟩
      · rcases states s member with old | rfl
        · obtain ⟨i, inImports, rfl⟩ := consistent.imported s old u holds
          refine ⟨i, List.mem_append_left _ (List.mem_filter.mpr ⟨inImports, ?_⟩), rfl⟩
          exact bne_iff_ne.mpr isNew
        · exact absurd (Option.some.inj (active.symm.trans holds)).symm isNew
    case once =>
      rw [List.map_append, List.nodup_append]
      refine ⟨(List.filter_sublist.map _).nodup consistent.once, by simp, ?_⟩
      intro old member new isNew same
      obtain ⟨i, kept, rfl⟩ := List.mem_map.mp member
      obtain rfl : new = versionId := by simpa using isNew
      exact bne_iff_ne.mp (List.mem_filter.mp kept).2 same

theorem mem_deactivate {s : FeedState} {u : Int}
    (member : s ∈ (w.deactivate versionId).feedStates) (holds : s.feedVersionId = some u) :
    s ∈ w.feedStates ∧ u ≠ versionId := by
  obtain ⟨old, inStates, rfl⟩ := List.mem_map.mp member
  split at holds
  · cases holds
  · next other =>
    rw [if_neg other]
    refine ⟨inStates, fun same => other ?_⟩
    rw [holds, same]
    exact beq_self_eq_true _

theorem Consistent.unimportVersion (consistent : w.Consistent) (versionId : Int) :
    (w.unimportVersion versionId).2.Consistent := by
  have kept : Consistent { w.deactivate versionId with
      feedVersionImports := w.feedVersionImports.filter (·.feedVersionId != versionId) } := by
    refine ⟨consistent.distinct, ?owned, ?imported, ?once⟩
    case owned =>
      intro s member u holds
      obtain ⟨old, _⟩ := mem_deactivate member holds
      exact consistent.owned s old u holds
    case imported =>
      intro s member u holds
      obtain ⟨old, other⟩ := mem_deactivate member holds
      obtain ⟨i, inImports, rfl⟩ := consistent.imported s old u holds
      exact ⟨i, List.mem_filter.mpr ⟨inImports, bne_iff_ne.mpr other⟩, rfl⟩
    case once => exact (List.filter_sublist.map _).nodup consistent.once
  unfold Warehouse.unimportVersion
  dsimp only
  split
  · exact kept
  · exact kept

theorem Consistent.deleteVersion (consistent : w.Consistent) (versionId : Int) :
    (w.deleteVersion versionId).2.Consistent := by
  unfold Warehouse.deleteVersion
  split
  · exact consistent
  · next unimported =>
    refine ⟨(List.filter_sublist.map _).nodup consistent.distinct, ?_, consistent.imported,
      consistent.once⟩
    intro s member u holds
    -- What is deleted is not imported, so no feed has it as its active version.
    have other : u ≠ versionId := by
      obtain ⟨i, inImports, rfl⟩ := consistent.imported s member u holds
      intro same
      exact unimported (List.any_eq_true.mpr ⟨i, inImports, beq_iff_eq.mpr same⟩)
    obtain ⟨v, inVersions, rfl, owner⟩ := consistent.owned s member u holds
    exact ⟨v, List.mem_filter.mpr ⟨inVersions, bne_iff_ne.mpr other⟩, rfl, owner⟩

end Warehouse

theorem VersionCommand.run_consistent {w : Warehouse} (consistent : w.Consistent)
    (c : VersionCommand) : (c.run w).2.Consistent := by
  cases c with
  | importing versionId => exact consistent.importVersion versionId
  | unimporting versionId => exact consistent.unimportVersion versionId
  | deleting versionId => exact consistent.deleteVersion versionId

namespace Warehouse

variable {w next : Warehouse} {versionId : Int}

theorem Consistent.afterVersions (consistent : w.Consistent)
    (commands : List VersionCommand) : (w.afterVersions commands).Consistent := by
  induction commands generalizing w with
  | nil => exact consistent
  | cons c rest ih => exact ih (c.run_consistent consistent)

/-- After an import the version is the active one of its feed. -/
theorem importVersion_ok (succeeds : w.importVersion versionId = (.ok (), next)) :
    ∃ version, next.feedVersion? versionId = some version ∧
      next.activeVersion? version.feedId = some versionId := by
  unfold importVersion at succeeds
  cases found : w.feedVersion? versionId with
  | none => simp [found, missing] at succeeds
  | some version =>
    simp only [found] at succeeds
    obtain ⟨_, rfl⟩ := Prod.mk.inj succeeds
    refine ⟨version, ?_, activeVersion?_activate _ _ _⟩
    obtain ⟨_, _, _, next, _⟩ := exists_activate _ version.feedId versionId
    rw [next]
    exact found

theorem importVersion_error {cause : LookupError}
    (failed : w.importVersion versionId = (.error cause, next)) :
    w.feedVersion? versionId = none ∧ next = w := by
  unfold importVersion at failed
  cases found : w.feedVersion? versionId with
  | none =>
    simp only [found] at failed
    exact ⟨rfl, (Prod.mk.inj failed).2.symm⟩
  | some version => simp [found] at failed

/-- Commands on feed versions keep a warehouse consistent. Whichever were given before, an import of
a version that exists succeeds, and makes it the active one of its feed. -/
theorem versions_consistent (consistent : w.Consistent) (commands : List VersionCommand) :
    (w.afterVersions commands).Consistent ∧
      ∀ versionId, match (w.afterVersions commands).importVersion versionId with
        | (.ok (), next) => ∃ version, next.feedVersion? versionId = some version ∧
            next.activeVersion? version.feedId = some versionId
        | (.error _, _) => (w.afterVersions commands).feedVersion? versionId = none := by
  refine ⟨consistent.afterVersions commands, fun versionId => ?_⟩
  split
  · next succeeds => exact importVersion_ok succeeds
  · next failed => exact (importVersion_error failed).1

/-- A feed with two versions, the first of which is active. -/
def turnover : Warehouse where
  feeds := [{ id := 1 }]
  feedVersions := [{ id := 1, feedId := 1, sha1 := "a1" }, { id := 2, feedId := 1, sha1 := "b2" }]
  feedVersionImports := [{ id := 1, feedVersionId := 1, success := true }]
  feedStates := [{ id := 1, feedId := 1, feedVersionId := some 1 }]

theorem versions_consistent_of_turnover :
    let commands := [VersionCommand.deleting 1, .unimporting 1, .deleting 1]
    turnover.Consistent ∧ (turnover.afterVersions commands).Consistent ∧
      ∃ next version, (turnover.afterVersions commands).importVersion 2 = (.ok (), next) ∧
        next.feedVersion? 2 = some version ∧ next.activeVersion? version.feedId = some 2 := by
  intro commands
  have consistent : turnover.Consistent := by decide
  obtain ⟨kept, imported⟩ := versions_consistent consistent commands
  obtain ⟨version, found, active⟩ := imported 2
  exact ⟨consistent, kept, _, version, rfl, found, active⟩

/-! ## Commands that fail -/

theorem deactivate_of_not_active
    (inactive : ∀ s ∈ w.feedStates, s.feedVersionId ≠ some versionId) :
    w.deactivate versionId = w := by
  have same : (w.feedStates.map fun s =>
      if s.feedVersionId == some versionId then { s with feedVersionId := none } else s) =
        w.feedStates := by
    refine (List.map_congr_left fun s member => ?_).trans (List.map_id _)
    rw [if_neg fun active => inactive s member (beq_iff_eq.mp active), id]
  rw [deactivate, same]

theorem Consistent.deactivate_of_unimported (consistent : w.Consistent)
    (unimported : ∀ i ∈ w.feedVersionImports, i.feedVersionId ≠ versionId) :
    w.deactivate versionId = w := by
  refine deactivate_of_not_active fun s member active => ?_
  obtain ⟨i, inImports, named⟩ := consistent.imported s member versionId active
  exact unimported i inImports named

theorem unimportVersion_error {cause : LookupError}
    (failed : w.unimportVersion versionId = (.error cause, next)) :
    (∀ i ∈ w.feedVersionImports, i.feedVersionId ≠ versionId) ∧ next = w.deactivate versionId := by
  unfold unimportVersion at failed
  dsimp only at failed
  split at failed
  · next left =>
    have others : ∀ i ∈ w.feedVersionImports, i.feedVersionId ≠ versionId :=
      length_retained_iff.mp (beq_iff_eq.mp left)
    obtain ⟨_, rfl⟩ := Prod.mk.inj failed
    exact ⟨others, by rw [retained_eq_self others, deactivate]⟩
  · cases failed

/-- A feed version that is not deleted leaves everything as it was. -/
theorem deleteVersion_error {cause : LookupError}
    (failed : w.deleteVersion versionId = (.error cause, next)) : next = w := by
  unfold deleteVersion at failed
  split at failed
  · exact (Prod.mk.inj failed).2.symm
  · exact eq_of_deleteRows_error failed

end Warehouse

namespace VersionCommand

variable {w next : Warehouse} {c : VersionCommand} {cause : LookupError}

/-- A failed command leaves the warehouse as it was, unless it was to unimport a version that is not
imported: no feed has that version as its active one then. -/
theorem run_error (failed : c.run w = (.error cause, next)) :
    next = w ∨ ∃ versionId, c = .unimporting versionId ∧
      (∀ i ∈ w.feedVersionImports, i.feedVersionId ≠ versionId) ∧
      next = w.deactivate versionId := by
  cases c with
  | importing versionId => exact .inl (Warehouse.importVersion_error failed).2
  | unimporting versionId =>
    exact .inr ⟨versionId, rfl, Warehouse.unimportVersion_error failed⟩
  | deleting versionId => exact .inl (Warehouse.deleteVersion_error failed)

end VersionCommand

end Transit
