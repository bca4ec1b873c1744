import Mathlib.Data.List.Infix
import Mathlib.Data.List.Nodup
import Transit.Proofs.Warehouse.Edits
set_option autoImplicit false

/-!
# One row at a time

As long as the ids of each table tell its rows apart, an edit adds, changes or removes a single row
(`Edit.Touches`). Edits keep the ids apart, so this holds for runs of any length
(`Warehouse.edits_touch_one_row`), unless the last id of all gets into use: the id of the next new
row would wrap around.
-/

namespace Transit

namespace Warehouse

/-- The ids of each table are words and tell its rows apart. -/
structure IdsApart (w : Warehouse) : Prop where
  words : ∀ t : Table, ∀ n ∈ t.ids w, Number.Range.int64.holds n = true
  distinct : ∀ t : Table, (t.ids w).Nodup

instance (w : Warehouse) : Decidable w.IdsApart :=
  decidable_of_iff ((∀ t : Table, ∀ n ∈ t.ids w, Number.Range.int64.holds n = true) ∧
      ∀ t : Table, (t.ids w).Nodup)
    ⟨fun ⟨words, distinct⟩ => ⟨words, distinct⟩, fun apart => ⟨apart.words, apart.distinct⟩⟩

/-- No row has the last id that there is. -/
def LastIdFree (w : Warehouse) : Prop :=
  ∀ t : Table, Number.Range.int64.hi ∉ t.ids w

instance (w : Warehouse) : Decidable w.LastIdFree :=
  inferInstanceAs (Decidable (∀ t : Table, Number.Range.int64.hi ∉ t.ids w))

end Warehouse

namespace Edit

/-- What an edit makes of a warehouse in which ids tell rows apart. A new row has an id of its own
by which it is found. -/
inductive Touches (w : Warehouse) : Edit → Int → Warehouse → Prop
  | create {t : Table} {input : t.Input} {id : Int} {blank row : t.Row}
      (unused : id ∉ t.ids w)
      (starts : t.blank? w id input = some blank)
      (fills : t.Fills input blank row)
      (loads : t.reference.find? (t.put w (t.rows w ++ [row])) id = some row) :
      Touches w (.create t input) id (t.put w (t.rows w ++ [row]))
  | update {t : Table} {input : t.Input} {front back : List t.Row} {before after : t.Row}
      (found : t.rows w = front ++ before :: back)
      (alone : ∀ row ∈ front ++ back, t.rowId row ≠ t.rowId before)
      (named : t.target input = some (t.rowId before))
      (fills : t.Fills input before after) :
      Touches w (.update t input) (t.rowId before) (t.put w (front ++ after :: back))
  | delete {t : Table} {front back : List t.Row} {old : t.Row}
      (found : t.rows w = front ++ old :: back)
      (alone : ∀ row ∈ front ++ back, t.rowId row ≠ t.rowId old) :
      Touches w (.delete t (t.rowId old)) (t.rowId old) (t.put w (front ++ back))

/-- An edit succeeds if it is permitted and then touches one row, and otherwise changes nothing. -/
def TouchesOneRow (w : Warehouse) (e : Edit) : Prop :=
  match e.run w with
  | (.ok id, next) => e.Permitted w ∧ e.Touches w id next
  | (.error _, next) => ¬ e.Permitted w ∧ next = w

end Edit

namespace Table

variable {t : Table} {front back : List t.Row} {row : t.Row}

theorem alone_of_nodup (distinct : ((front ++ row :: back).map t.rowId).Nodup) :
    ∀ r ∈ front ++ back, t.rowId r ≠ t.rowId row := by
  rw [List.map_append, List.map_cons, List.nodup_middle, List.nodup_cons, ← List.map_append]
    at distinct
  intro r member same
  exact distinct.1 (List.mem_map.mpr ⟨r, member, same⟩)

theorem filter_eq_of_alone (alone : ∀ r ∈ front ++ back, t.rowId r ≠ t.rowId row) :
    (front ++ row :: back).filter (t.rowId · != t.rowId row) = front ++ back := by
  have kept : (front ++ back).filter (t.rowId · != t.rowId row) = front ++ back :=
    List.filter_eq_self.mpr fun r member => bne_iff_ne.mpr (alone r member)
  rw [List.filter_append, List.filter_cons_of_neg (by simp), ← List.filter_append, kept]

end Table

namespace Edit

variable {w next : Warehouse} {e : Edit} {id : Int}

theorem Makes.idsApart (makes : e.Makes w id next) (apart : w.IdsApart) (free : w.LastIdFree) :
    next.IdsApart where
  words t := makes.words (apart.words t) (free t)
  distinct t := makes.nodup (apart.words t) (free t) (apart.distinct t)

theorem Makes.touches (makes : e.Makes w id next) (apart : w.IdsApart) (free : w.LastIdFree) :
    e.Touches w id next := by
  cases makes with
  | @create t input blank row starts fills =>
    have unused := (Warehouse.nextId_fresh (apart.words t) (free t)).1
    refine .create unused starts fills ?_
    have named : t.rowId row = Warehouse.nextId (t.ids w) :=
      fills.rowId.trans (Table.rowId_blank starts)
    have others : (t.rows w).find? (t.rowId · == Warehouse.nextId (t.ids w)) = none := by
      refine List.find?_eq_none.mpr fun r member same => unused ?_
      exact List.mem_map.mpr ⟨r, member, beq_iff_eq.mp same⟩
    rw [Table.find?_eq, Table.rows_put, List.find?_append, others, Option.none_or, ← named]
    exact List.find?_cons_of_pos (beq_self_eq_true _)
  | @update t input front back before after found first named fills =>
    have distinct : ((front ++ before :: back).map t.rowId).Nodup := found ▸ apart.distinct t
    exact .update found (Table.alone_of_nodup distinct) named fills
  | @delete t rowId found =>
    obtain ⟨row, member, rfl⟩ := found
    obtain ⟨front, back, split⟩ := List.append_of_mem member
    have distinct : ((front ++ row :: back).map t.rowId).Nodup := split ▸ apart.distinct t
    have alone := Table.alone_of_nodup distinct
    rw [split, Table.filter_eq_of_alone alone]
    exact .delete split alone

theorem touchesOneRow (apart : w.IdsApart) (free : w.LastIdFree) (e : Edit) :
    e.TouchesOneRow w := by
  rw [TouchesOneRow]
  cases ran : e.run w with
  | mk answer next =>
    cases answer with
    | ok id =>
      obtain ⟨permitted, makes⟩ := run_ok ran
      exact ⟨permitted, makes.touches apart free⟩
    | error cause => exact run_refused ran

end Edit

namespace Warehouse

/-- Edits keep the ids of each table apart, and each of them touches one row at most. -/
theorem edits_touch_one_row {w : Warehouse} {edits : List Edit} (apart : w.IdsApart)
    (free : ∀ done, done <+: edits → (w.afterEdits done).LastIdFree) :
    ∀ done, done <+: edits → (w.afterEdits done).IdsApart ∧
      ∀ e rest, edits = done ++ e :: rest → e.TouchesOneRow (w.afterEdits done) := by
  -- Each new id is fresh only because the ids before were apart, so this comes first.
  have kept : ∀ done, done <+: edits → (w.afterEdits done).IdsApart := by
    refine afterEdits_induction apart ?_
    intro done e rest split apart
    rcases e.run_cases (w.afterEdits done) with same | ⟨id, makes⟩
    · exact same.symm ▸ apart
    · exact makes.idsApart apart (free done ⟨e :: rest, split.symm⟩)
  intro done before
  exact ⟨kept done before, fun e _ _ => e.touchesOneRow (kept done before) (free done before)⟩

def stationEdits : List Edit := [
  .create .stops { feedVersionId := some 1, stopId := some "exit", stopName := some "Exit" },
  .update .pathways { id := some 1, toStopId := some 9 },
  .delete .levels 2]

theorem edits_touch_one_row_of_station :
    station.IdsApart ∧
      (∀ done, done <+: stationEdits → (station.afterEdits done).LastIdFree) ∧
      (station.afterEdits stationEdits).IdsApart ∧
      (Edit.update .pathways { id := some 1, toStopId := some 9 }).TouchesOneRow
        (station.afterEdits (stationEdits.take 1)) := by
  have apart : station.IdsApart := by decide
  have free : ∀ done, done <+: stationEdits → (station.afterEdits done).LastIdFree := by
    have all : ∀ done ∈ stationEdits.inits, (station.afterEdits done).LastIdFree := by decide
    exact fun done before => all done ((List.mem_inits _ _).mpr before)
  have touched := edits_touch_one_row apart free
  exact ⟨apart, free, (touched stationEdits (List.prefix_refl _)).1,
    (touched _ (List.take_prefix 1 _)).2 _ _ rfl⟩

end Warehouse

end Transit
