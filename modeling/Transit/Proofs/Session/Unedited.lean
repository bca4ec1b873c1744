import Transit.Proofs.Session.Moves
set_option autoImplicit false

/-!
# Sessions that edit nothing

What is remembered of the warehouse is never given up, so after an edit it may differ from what the
warehouse says. Over moves that leave the warehouse as it is (`Session.Unedited`) it does not: a
gateway that begins with nothing remembered always answers as the warehouse does
(`Session.Unedited.faithful`).
-/

namespace Transit

open Gateway (SameAnswers SameMemory lasting_sameAnswers)

/-! ## Two relations at once -/

namespace Task

variable {α : Type} {R S : Gateway → Gateway → Prop}

theorem Within.and {t : Task α} (first : t.Within R) (second : t.Within S) :
    t.Within fun g h => R g h ∧ S g h := by
  induction t with
  | done a => trivial
  | act change next ih =>
    exact ⟨fun g => ⟨first.1 g, second.1 g⟩, fun g => ih g (first.2 g) (second.2 g)⟩
  | load l keys next ih => exact fun values => ih values (first values) (second values)

end Task

namespace Gateway

variable {g h : Gateway}

/-- What is found, whether or not it is remembered, is what the warehouse says. -/
structure Faithful (g : Gateway) : Prop where
  feeds : ∀ version,
    IdCache.feeds? g.warehouse g.ids version = g.warehouse.realtimeFeeds version
  tripId : ∀ id, IdCache.tripId? g.warehouse g.ids id = (g.warehouse.trip? id).map (·.tripId)
  stopId : ∀ id, IdCache.stopId? g.warehouse g.ids id = (g.warehouse.stop? id).map (·.stopId)

theorem faithful_of_blank (blank : g.ids = {}) : g.Faithful := by
  refine ⟨fun version => ?_, fun id => ?_, fun id => ?_⟩
  · rw [blank]
    rfl
  · rw [blank]
    rfl
  · rw [blank]
    rfl

theorem Faithful.sameAnswers (faithful : g.Faithful) (same : SameAnswers g h) : h.Faithful := by
  obtain ⟨warehouse, ids, _⟩ := same
  refine ⟨fun version => ?_, fun id => ?_, fun id => ?_⟩
  · rw [warehouse, ids.feeds, faithful.feeds]
  · rw [warehouse, ids.tripId, faithful.tripId]
  · rw [warehouse, ids.stopId, faithful.stopId]

end Gateway

namespace Session

/-- The warehouse is the same. -/
def SameWarehouse (g h : Gateway) : Prop := h.warehouse = g.warehouse

/-- A gateway after some moves that leave the warehouse as it is, or in the middle of one, after a
task that only consults it. Of calls that run together none edits it at any step. -/
inductive Unedited (g : Gateway) : Gateway → Prop
  | start : Unedited g g
  | within {h : Gateway} {α : Type} {t : Task α} (before : Unedited g h) (consults : t.Consults) :
      Unedited g (t.run h).2
  | alone {h : Gateway} {call : Call} (before : Unedited g h)
      (kept : SameWarehouse h ((Move.alone call).after h)) :
      Unedited g ((Move.alone call).after h)
  | together {h : Gateway} {calls : List Call} (before : Unedited g h)
      (kept : ∀ call ∈ calls, Stays SameWarehouse call.select) :
      Unedited g ((Move.together calls).after h)

/-- A call that edits nothing consults the warehouse at most. -/
theorem Call.answers_of_sameWarehouse {c : Call} (kept : Stays SameWarehouse c.select) :
    Stays SameAnswers c.select := by
  rcases c.answers_or_remembers with same | ⟨remembers, _⟩
  · exact same
  · exact ⟨(remembers.within.and kept.within).mono fun _ _ both => both.1.sameAnswers both.2⟩

namespace Unedited

variable {g h : Gateway}

theorem sameAnswers (unedited : Unedited g h) : SameAnswers g h := by
  induction unedited with
  | start => exact lasting_sameAnswers.refl g
  | @within h α t before consults ih =>
    exact ih.trans (consults.run Gateway.lasting_consulted h).sameAnswers
  | @alone h call before kept ih =>
    refine ih.trans ?_
    rcases call.answers_or_remembers with same | ⟨remembers, _⟩
    · exact same.run lasting_sameAnswers h
    · exact (remembers.run Gateway.lasting_sameMemory h).sameAnswers kept
  | @together h calls before kept ih =>
    refine ih.trans ?_
    have moves := Move.stays_together lasting_sameAnswers fun call listed =>
      Call.answers_of_sameWarehouse (kept call listed)
    exact moves.run lasting_sameAnswers h

theorem faithful (unedited : Unedited g h) (blank : g.ids = {}) : h.Faithful :=
  (Gateway.faithful_of_blank blank).sameAnswers unedited.sameAnswers

end Unedited

end Session

end Transit
