import Mathlib.Data.List.Induction
import Transit.Proofs.Warehouse.Tables
set_option autoImplicit false

/-!
# Edits of stops, levels and pathways

The nine edits are three kinds of edits of three tables. An edit that is permitted succeeds
(`Edit.exists_ok`), and what a successful one makes of the warehouse is among the three effects that
`Edit.Makes` lists (`Edit.run_ok`); a failed one leaves the warehouse as it was (`Edit.run_error`).
What runs of edits keep is proved from these facts alone.
-/

namespace Transit

inductive Edit
  | create (t : Table) (input : t.Input)
  | update (t : Table) (input : t.Input)
  | delete (t : Table) (id : Int)

namespace Warehouse

/-- The edit with an answer of its own where it succeeds. -/
def Edited.answering {α : Type} (answer : α) (r : Edited Unit) : Edited α :=
  (r.1.map fun _ => answer, r.2)

end Warehouse

namespace Edit

/-- Make an edit; it answers with the id of the row. -/
def run (w : Warehouse) : Edit → Warehouse.Edited Int
  | .create .stops input => w.createStop input
  | .create .levels input => w.createLevel input
  | .create .pathways input => w.createPathway input
  | .update .stops input => w.updateStop input
  | .update .levels input => w.updateLevel input
  | .update .pathways input => w.updatePathway input
  | .delete .stops id => (w.deleteStop id).answering id
  | .delete .levels id => (w.deleteLevel id).answering id
  | .delete .pathways id => (w.deletePathway id).answering id

def Permitted (w : Warehouse) : Edit → Prop
  | .create t input => t.Admits w input
  | .update t input => ∃ row ∈ t.rows w, t.target input = some (t.rowId row)
  | .delete t id => ∃ row ∈ t.rows w, t.rowId row = id

/-- What an edit can make of a warehouse, with the id that it answers. Two rows may share an id: an
update is for the first of them, a delete for all. -/
inductive Makes (w : Warehouse) : Edit → Int → Warehouse → Prop
  | create {t : Table} {input : t.Input} {blank row : t.Row}
      (starts : t.blank? w (Warehouse.nextId (t.ids w)) input = some blank)
      (fills : t.Fills input blank row) :
      Makes w (.create t input) (Warehouse.nextId (t.ids w)) (t.put w (t.rows w ++ [row]))
  | update {t : Table} {input : t.Input} {front back : List t.Row} {before after : t.Row}
      (found : t.rows w = front ++ before :: back)
      (first : ∀ row ∈ front, t.rowId row ≠ t.rowId before)
      (named : t.target input = some (t.rowId before))
      (fills : t.Fills input before after) :
      Makes w (.update t input) (t.rowId before) (t.put w (front ++ after :: back))
  | delete {t : Table} {id : Int} (found : ∃ row ∈ t.rows w, t.rowId row = id) :
      Makes w (.delete t id) id (t.put w ((t.rows w).filter (t.rowId · != id)))

end Edit

namespace Warehouse

variable {w next : Warehouse} {α β : Type}

theorem exists_of_feedVersion? {id : Int} (found : ¬ (w.feedVersion? id).isNone) :
    ∃ v ∈ w.feedVersions, some id = some v.id := by
  have known : (w.feedVersion? id).isSome := by simpa [Option.isSome_iff_ne_none] using found
  obtain ⟨v, member, same⟩ := List.find?_isSome.mp known
  exact ⟨v, member, congrArg some (beq_iff_eq.mp same).symm⟩

theorem exists_of_stop? {id : Int} (found : ¬ (w.stop? id).isNone) :
    ∃ s ∈ w.stops, some id = some s.id := by
  have known : (w.stop? id).isSome := by simpa [Option.isSome_iff_ne_none] using found
  obtain ⟨s, member, same⟩ := List.find?_isSome.mp known
  exact ⟨s, member, congrArg some (beq_iff_eq.mp same).symm⟩

theorem exists_feedVersion? {v : FeedVersion} (member : v ∈ w.feedVersions) :
    ∃ version, w.feedVersion? v.id = some version :=
  Option.isSome_iff_exists.mp (List.find?_isSome.mpr ⟨v, member, beq_self_eq_true v.id⟩)

theorem exists_stop? {s : Stop} (member : s ∈ w.stops) : ∃ found, w.stop? s.id = some found :=
  Option.isSome_iff_exists.mp (List.find?_isSome.mpr ⟨s, member, beq_self_eq_true s.id⟩)

theorem edited_eq_ok {r : Except LookupError (α × Warehouse)} {a : α} :
    w.edited r = (.ok a, next) ↔ r = .ok (a, next) := by
  cases r <;> simp [edited, Prod.ext_iff]

theorem eq_of_edited_error {r : Except LookupError (α × Warehouse)} {cause : LookupError}
    (failed : w.edited r = (.error cause, next)) : next = w := by
  cases r with
  | ok made => simp [edited] at failed
  | error _ => exact (Prod.mk.inj failed).2.symm

/-- As many rows are left as there were if and only if none had the id, and then they are the rows
that there were. -/
theorem length_retained_iff {τ : Type} {rows : List τ} {key : τ → Int} {id : Int} :
    (rows.filter (key · != id)).length = rows.length ↔ ∀ row ∈ rows, key row ≠ id := by
  rw [List.length_filter_eq_length_iff]
  simp only [bne_iff_ne]

theorem retained_eq_self {τ : Type} {rows : List τ} {key : τ → Int} {id : Int}
    (none : ∀ row ∈ rows, key row ≠ id) : rows.filter (key · != id) = rows :=
  List.filter_eq_self.mpr fun row member => bne_iff_ne.mpr (none row member)

theorem deleteRows_of_exists {τ : Type} {rows : List τ} {key : τ → Int} {id : Int}
    (found : ∃ row ∈ rows, key row = id) (put : List τ → Warehouse) (entity : String) :
    deleteRows rows key id put entity = (.ok (), put (rows.filter (key · != id))) := by
  have fewer : ¬ (rows.filter (key · != id)).length = rows.length := by
    rw [length_retained_iff]
    obtain ⟨row, member, same⟩ := found
    exact fun none => none row member same
  rw [deleteRows, if_neg (mt beq_iff_eq.mp fewer)]

/-- A deletion that fails puts back the rows that there were. -/
theorem deleteRows_of_forall {τ : Type} {rows : List τ} {key : τ → Int} {id : Int}
    (none : ∀ row ∈ rows, key row ≠ id) (put : List τ → Warehouse) (entity : String) :
    deleteRows rows key id put entity = (missing entity id, put rows) := by
  rw [deleteRows, if_pos (beq_iff_eq.mpr (length_retained_iff.mpr none)), retained_eq_self none]

theorem eq_of_deleteRows_error {τ : Type} {rows : List τ} {key : τ → Int} {id : Int}
    {put : List τ → Warehouse} {entity : String} {cause : LookupError}
    (failed : deleteRows rows key id put entity = (.error cause, next)) : next = put rows := by
  by_cases found : ∃ row ∈ rows, key row = id
  · rw [deleteRows_of_exists found] at failed
    cases failed
  · rw [deleteRows_of_forall (by simpa using found)] at failed
    exact (Prod.mk.inj failed).2.symm

theorem eq_of_answering_error {r : Edited Unit} {answer : α} {cause : LookupError}
    (failed : r.answering answer = (.error cause, next)) : r = (.error cause, next) := by
  obtain ⟨result, made⟩ := r
  cases result with
  | ok _ => cases failed
  | error _ =>
    cases failed
    rfl

theorem required_bind_eq_ok {value : Option α} {field : String} {f : α → Except LookupError β}
    {b : β} : (required value field >>= f) = .ok b ↔ ∃ a, value = some a ∧ f a = .ok b := by
  cases value <;> simp [required, bind, Except.bind]

/-- The first row with a property is the one that is changed. -/
theorem exists_changeFirst {τ : Type} {wanted : τ → Bool} {rows : List τ}
    (found : ∃ row ∈ rows, wanted row = true) (change : τ → τ) :
    ∃ front row back, rows = front ++ row :: back ∧ (∀ r ∈ front, wanted r = false) ∧
      wanted row = true ∧ changeFirst wanted change rows = front ++ change row :: back := by
  induction rows with
  | nil => simp at found
  | cons r rest ih =>
    cases isWanted : wanted r with
    | true => exact ⟨[], r, rest, rfl, by simp, isWanted, by simp [changeFirst, isWanted]⟩
    | false =>
      have later : ∃ row ∈ rest, wanted row = true := by simpa [isWanted] using found
      obtain ⟨front, row, back, rfl, before, here, changed⟩ := ih later
      refine ⟨r :: front, row, back, rfl, ?_, here, ?_⟩
      · rw [List.forall_mem_cons]
        exact ⟨isWanted, before⟩
      · simp [changeFirst, isWanted, changed]

end Warehouse

namespace Edit

open Warehouse

variable {w next : Warehouse} {e : Edit} {id : Int}

/-- Updates are alike in all tables. -/
theorem run_update (w : Warehouse) (t : Table) (input : t.Input) :
    (update t input).run w = w.edited (do
      let id ← required (t.target input) "id"
      if (t.rows w).any (t.rowId · == id) then
        .ok (id, t.put w (changeFirst (t.rowId · == id) (t.apply input) (t.rows w)))
      else missing t.entity id) := by
  cases t <;> rfl

theorem run_delete (w : Warehouse) (t : Table) (id : Int) :
    (delete t id).run w =
      (deleteRows (t.rows w) t.rowId id (t.put w) t.entity).answering id := by
  cases t <;> rfl

theorem run_delete_of_exists {t : Table} (found : ∃ row ∈ t.rows w, t.rowId row = id) :
    (delete t id).run w = (.ok id, t.put w ((t.rows w).filter (t.rowId · != id))) := by
  rw [run_delete, deleteRows_of_exists found]
  rfl

theorem run_delete_of_forall {t : Table} (none : ∀ row ∈ t.rows w, t.rowId row ≠ id) :
    (delete t id).run w = (missing t.entity id, w) := by
  rw [run_delete, deleteRows_of_forall none]
  cases t <;> rfl

theorem any_rowId {t : Table} {rows : List t.Row} :
    rows.any (t.rowId · == id) = true ↔ ∃ row ∈ rows, t.rowId row = id := by
  simp only [List.any_eq_true, beq_iff_eq]

/-- A failed edit leaves the warehouse as it was. -/
theorem run_error {cause : LookupError} (failed : e.run w = (.error cause, next)) : next = w := by
  cases e with
  | create t input => cases t <;> exact eq_of_edited_error failed
  | update t input => cases t <;> exact eq_of_edited_error failed
  | delete t id =>
    rw [run_delete] at failed
    rw [eq_of_deleteRows_error (eq_of_answering_error failed)]
    cases t <;> rfl

theorem create_ok {t : Table} {input : t.Input} (made : (create t input).run w = (.ok id, next)) :
    t.Admits w input ∧ (create t input).Makes w id next := by
  cases t with
  | stops =>
    obtain ⟨versionId, versioned, made⟩ := required_bind_eq_ok.mp (edited_eq_ok.mp made)
    obtain ⟨stopId, called, made⟩ := required_bind_eq_ok.mp made
    cases found : w.feedVersion? versionId with
    | none => simp [found, missing] at made
    | some version =>
      have exists_version : ∃ v ∈ w.feedVersions, some versionId = some v.id :=
        exists_of_feedVersion? (by simp [found])
      have feed : w.feedOfVersion? versionId = w.feed? version.feedId := by
        rw [feedOfVersion?, found]
        rfl
      simp only [found, feed] at made
      cases made
      refine ⟨⟨versioned ▸ exists_version, by rw [called]; rfl⟩, ?_⟩
      have starts : Table.stops.blank? w (nextId (Table.stops.ids w)) input = some {
          id := nextId (Table.stops.ids w)
          feedVersionId := versionId
          feedVersionSha1 := version.sha1
          feedOnestopId := ((w.feed? version.feedId).map (·.onestopId)).getD "" } := by
        simp only [Table.blank?, versioned, found, bind, Option.bind_some]
      exact .create starts (StopSetInput.fills_named called _)
  | levels =>
    obtain ⟨versionId, versioned, made⟩ := required_bind_eq_ok.mp (edited_eq_ok.mp made)
    obtain ⟨levelId, called, made⟩ := required_bind_eq_ok.mp made
    split at made
    · cases made
    · next found =>
      cases made
      have exists_version := exists_of_feedVersion? found
      refine ⟨⟨versioned ▸ exists_version, by rw [called]; rfl⟩, ?_⟩
      exact .create (congrArg (Option.map _) versioned) (LevelSetInput.fills_named called _)
  | pathways =>
    obtain ⟨versionId, versioned, made⟩ := required_bind_eq_ok.mp (edited_eq_ok.mp made)
    obtain ⟨pathwayId, called, made⟩ := required_bind_eq_ok.mp made
    obtain ⟨fromStopId, begins, made⟩ := required_bind_eq_ok.mp made
    obtain ⟨toStopId, ends, made⟩ := required_bind_eq_ok.mp made
    split at made
    · cases made
    · next isFrom =>
      split at made
      · cases made
      · next isTo =>
        cases made
        have exists_from := exists_of_stop? isFrom
        have exists_to := exists_of_stop? isTo
        refine ⟨⟨by rw [versioned]; rfl, by rw [called]; rfl, begins ▸ exists_from,
          ends ▸ exists_to⟩, ?_⟩
        exact .create (congrArg (Option.map _) versioned)
          (PathwaySetInput.fills_named called begins ends _)

theorem update_ok {t : Table} {input : t.Input} (made : (update t input).run w = (.ok id, next)) :
    (update t input).Permitted w ∧ (update t input).Makes w id next := by
  rw [run_update] at made
  obtain ⟨rowId, named, made⟩ := required_bind_eq_ok.mp (edited_eq_ok.mp made)
  split at made
  · next found =>
    cases made
    obtain ⟨front, row, back, split, before, here, changed⟩ :=
      exists_changeFirst (List.any_eq_true.mp found) (t.apply input)
    obtain rfl := beq_iff_eq.mp here
    refine ⟨⟨row, by simp [split], named⟩, ?_⟩
    rw [changed]
    refine .update split (fun r member => ?_) named (t.fills_apply input row)
    exact ne_of_beq_false (before r member)
  · cases made

theorem delete_ok {t : Table} {rowId : Int} (made : (delete t rowId).run w = (.ok id, next)) :
    (delete t rowId).Permitted w ∧ (delete t rowId).Makes w id next := by
  by_cases found : ∃ row ∈ t.rows w, t.rowId row = rowId
  · rw [run_delete_of_exists found] at made
    cases made
    exact ⟨found, .delete found⟩
  · rw [run_delete_of_forall (by simpa using found)] at made
    cases made

/-- An edit that succeeds was permitted and has one of the effects listed. -/
theorem run_ok (made : e.run w = (.ok id, next)) : e.Permitted w ∧ e.Makes w id next := by
  cases e with
  | create t input => exact create_ok made
  | update t input => exact update_ok made
  | delete t rowId => exact delete_ok made

theorem exists_ok_of_admits {t : Table} {input : t.Input} (admits : t.Admits w input) :
    ∃ id next, (create t input).run w = (.ok id, next) := by
  cases t with
  | stops =>
    obtain ⟨⟨v, member, versioned⟩, called⟩ := admits
    obtain ⟨stopId, called⟩ := Option.isSome_iff_exists.mp called
    obtain ⟨version, found⟩ := exists_feedVersion? member
    simp only [run, createStop, versioned, called, required, bind, Except.bind, found]
    exact ⟨_, _, rfl⟩
  | levels =>
    obtain ⟨⟨v, member, versioned⟩, called⟩ := admits
    obtain ⟨levelId, called⟩ := Option.isSome_iff_exists.mp called
    obtain ⟨version, found⟩ := exists_feedVersion? member
    simp only [run, createLevel, versioned, called, required, bind, Except.bind, found]
    exact ⟨_, _, rfl⟩
  | pathways =>
    obtain ⟨versioned, called, ⟨a, isFrom, begins⟩, ⟨b, isTo, ends⟩⟩ := admits
    obtain ⟨versionId, versioned⟩ := Option.isSome_iff_exists.mp versioned
    obtain ⟨pathwayId, called⟩ := Option.isSome_iff_exists.mp called
    obtain ⟨_, foundFrom⟩ := exists_stop? isFrom
    obtain ⟨_, foundTo⟩ := exists_stop? isTo
    simp only [run, createPathway, versioned, called, begins, ends, required, bind, Except.bind,
      foundFrom, foundTo]
    exact ⟨_, _, rfl⟩

theorem exists_ok (permitted : e.Permitted w) : ∃ id next, e.run w = (.ok id, next) := by
  cases e with
  | create t input => exact exists_ok_of_admits permitted
  | update t input =>
    obtain ⟨row, member, named⟩ := permitted
    have known : (t.rows w).any (t.rowId · == t.rowId row) = true :=
      any_rowId.mpr ⟨row, member, rfl⟩
    simp only [run_update, named, required, bind, Except.bind, known, if_true]
    exact ⟨_, _, rfl⟩
  | delete t id =>
    exact ⟨_, _, run_delete_of_exists permitted⟩

theorem run_refused {cause : LookupError} (failed : e.run w = (.error cause, next)) :
    ¬ e.Permitted w ∧ next = w := by
  refine ⟨fun permitted => ?_, run_error failed⟩
  obtain ⟨id, other, succeeds⟩ := exists_ok permitted
  rw [failed] at succeeds
  cases succeeds

/-! ## Ids after an edit -/

end Edit

namespace Warehouse

/-- Unless the last id is taken, a new one is greater than all that are in use. -/
theorem nextId_fresh {ids : List Int} (words : ∀ n ∈ ids, Number.Range.int64.holds n = true)
    (free : Number.Range.int64.hi ∉ ids) :
    nextId ids ∉ ids ∧ Number.Range.int64.holds (nextId ids) = true := by
  cases ids with
  | nil => exact ⟨List.not_mem_nil, by decide⟩
  | cons id rest =>
    have isMax : (id :: rest).max? = some (rest.foldl max id) := List.max?_cons'
    obtain ⟨used, greatest⟩ := List.max?_eq_some_iff.mp isMax
    have word := words _ used
    -- The greatest id in use is not the last one, so the next does not wrap around.
    have notLast : rest.foldl max id ≠ Number.Range.int64.hi := fun same => free (same ▸ used)
    have inside : Number.Range.int64.holds (rest.foldl max id + 1) = true := by
      rw [Number.Range.holds_iff] at word ⊢
      omega
    rw [nextId, Number.Range.wrap_of_holds inside]
    refine ⟨fun member => ?_, inside⟩
    have below := greatest _ member
    omega

end Warehouse

namespace Edit

open Warehouse

variable {w next : Warehouse} {e : Edit} {id : Int}

/-- The ids of a table are those before the edit with a new one after them, or some of them. -/
theorem Makes.ids (makes : e.Makes w id next) (u : Table) :
    u.ids next = u.ids w ++ [nextId (u.ids w)] ∨ (u.ids next).Sublist (u.ids w) := by
  have untouched {t : Table} (rows : List t.Row) (other : u ≠ t) :
      (u.ids (t.put w rows)).Sublist (u.ids w) := by
    have same : u.ids (t.put w rows) = u.ids w := Table.ids_put_of_ne other
    exact same.symm ▸ List.Sublist.refl (u.ids w)
  -- The table that is edited, and the two that are not.
  cases makes with
  | @create t input blank row starts fills =>
    rcases eq_or_ne u t with rfl | other
    · rw [Table.ids_put_append, fills.rowId, Table.rowId_blank starts]
      exact .inl rfl
    · exact .inr (untouched _ other)
  | @update t input front back before after found first named fills =>
    rcases eq_or_ne u t with rfl | other
    · rw [Table.ids_put_replace found fills.rowId]
      exact .inr (.refl _)
    · exact .inr (untouched _ other)
  | @delete t rowId found =>
    rcases eq_or_ne u t with rfl | other
    · rw [Table.ids_put]
      exact .inr (List.filter_sublist.map _)
    · exact .inr (untouched _ other)

variable {u : Table}

theorem Makes.words (makes : e.Makes w id next)
    (words : ∀ n ∈ u.ids w, Number.Range.int64.holds n = true)
    (free : Number.Range.int64.hi ∉ u.ids w) :
    ∀ n ∈ u.ids next, Number.Range.int64.holds n = true := by
  intro n member
  rcases makes.ids u with grown | fewer
  · rw [grown, List.mem_append, List.mem_singleton] at member
    rcases member with old | rfl
    · exact words n old
    · exact (nextId_fresh words free).2
  · exact words n (fewer.subset member)

theorem Makes.nodup (makes : e.Makes w id next)
    (words : ∀ n ∈ u.ids w, Number.Range.int64.holds n = true)
    (free : Number.Range.int64.hi ∉ u.ids w) (distinct : (u.ids w).Nodup) :
    (u.ids next).Nodup := by
  rcases makes.ids u with grown | fewer
  · rw [grown, List.nodup_append]
    refine ⟨distinct, by simp, fun n old m new same => ?_⟩
    obtain rfl := List.mem_singleton.mp new
    exact (nextId_fresh words free).1 (same ▸ old)
  · exact fewer.nodup distinct

theorem Makes.mem_ids_create {t : Table} {input : t.Input}
    (makes : (Edit.create t input).Makes w id next) : id ∈ t.ids next := by
  cases makes with
  | create starts fills =>
    rw [Table.ids_put_append, fills.rowId, Table.rowId_blank starts]
    exact List.mem_append_right _ List.mem_cons_self

theorem Makes.mem_ids_update {t : Table} {input : t.Input}
    (makes : (Edit.update t input).Makes w id next) : id ∈ t.ids next := by
  cases makes with
  | @update _ _ front back before after found first named fills =>
    have member : before ∈ t.rows w := found ▸ List.mem_append_right _ List.mem_cons_self
    rw [Table.ids_put_replace found fills.rowId]
    exact List.mem_map_of_mem member

theorem run_cases (w : Warehouse) (e : Edit) :
    (e.run w).2 = w ∨ ∃ id, e.Makes w id (e.run w).2 := by
  cases ran : e.run w with
  | mk answer next =>
    cases answer with
    | error cause => exact .inl (run_error ran)
    | ok id => exact .inr ⟨id, (run_ok ran).2⟩

end Edit

/-! ## Runs of edits -/

namespace Warehouse

/-- The warehouse after some edits, one after another; some of them may have failed. -/
def afterEdits (w : Warehouse) (edits : List Edit) : Warehouse :=
  edits.foldl (fun w e => (e.run w).2) w

theorem afterEdits_concat (w : Warehouse) (done : List Edit) (e : Edit) :
    w.afterEdits (done ++ [e]) = (e.run (w.afterEdits done)).2 := by
  simp only [afterEdits, List.foldl_append, List.foldl_cons, List.foldl_nil]

/-- What holds at first and is kept by each edit that is made holds all the time. -/
theorem afterEdits_induction {w : Warehouse} {edits : List Edit} {Inv : Warehouse → Prop}
    (start : Inv w)
    (step : ∀ done e rest, edits = done ++ e :: rest → Inv (w.afterEdits done) →
      Inv (e.run (w.afterEdits done)).2) :
    ∀ done, done <+: edits → Inv (w.afterEdits done) := by
  intro done
  induction done using List.reverseRecOn with
  | nil => exact fun _ => start
  | append_singleton done e ih =>
    rintro ⟨rest, rfl⟩
    have sofar := ih ⟨e :: rest, by simp⟩
    rw [afterEdits_concat]
    exact step done e rest (by simp) sofar

/-- A station with a hall, a platform and the way between them. -/
def station : Warehouse where
  feeds := [{ id := 1, onestopId := "f-metro" }]
  feedVersions := [{ id := 1, feedId := 1, sha1 := "a1" }]
  stops := [{ id := 3, feedVersionId := 1, stopId := "hall" },
    { id := 8, feedVersionId := 1, stopId := "platform" }]
  levels := [{ id := 2, feedVersionId := 1 }]
  pathways := [{ id := 1, feedVersionId := 1, fromStopId := 3, toStopId := 8 }]

end Warehouse

end Transit
