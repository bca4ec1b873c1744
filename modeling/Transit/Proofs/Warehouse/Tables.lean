import Transit.Gateway.Lookup
import Transit.Warehouse.Editing
set_option autoImplicit false

/-!
# The tables of stops, levels and pathways

These three are edited row by row. For each of them: where its rows stand, what setting the fields of
an input makes of a row (`Table.Fills`), what a new row begins with (`Table.blank?`), and what it
takes to create one (`Table.Admits`).
-/

namespace Transit

/-- The tables that are edited row by row. -/
inductive Table
  | stops
  | levels
  | pathways
  deriving DecidableEq, Repr

namespace Table

instance {P : Table → Prop} [DecidablePred P] : Decidable (∀ t, P t) :=
  decidable_of_iff (P .stops ∧ P .levels ∧ P .pathways)
    ⟨fun ⟨_, _, _⟩ t => by cases t <;> assumption, fun all => ⟨all _, all _, all _⟩⟩

/-- The look-up of a row by its id. -/
abbrev reference : Table → Reference
  | .stops => .stop
  | .levels => .level
  | .pathways => .pathway

abbrev Row (t : Table) : Type := t.reference.Row

abbrev Input : Table → Type
  | .stops => StopSetInput
  | .levels => LevelSetInput
  | .pathways => PathwaySetInput

/-- What errors call a row. -/
def entity : Table → String
  | .stops => "stop"
  | .levels => "level"
  | .pathways => "pathway"

def rows (w : Warehouse) : (t : Table) → List t.Row
  | .stops => w.stops
  | .levels => w.levels
  | .pathways => w.pathways

/-- The warehouse with other rows in one table. -/
def put (w : Warehouse) : (t : Table) → List t.Row → Warehouse
  | .stops => fun stops => { w with stops }
  | .levels => fun levels => { w with levels }
  | .pathways => fun pathways => { w with pathways }

def rowId : (t : Table) → t.Row → Int
  | .stops => Stop.id
  | .levels => Level.id
  | .pathways => Pathway.id

def ids (t : Table) (w : Warehouse) : List Int :=
  (t.rows w).map t.rowId

/-- The id of the row that an update is for. -/
def target : (t : Table) → t.Input → Option Int
  | .stops => StopSetInput.id
  | .levels => LevelSetInput.id
  | .pathways => PathwaySetInput.id

def apply : (t : Table) → t.Input → t.Row → t.Row
  | .stops => StopSetInput.apply
  | .levels => LevelSetInput.apply
  | .pathways => PathwaySetInput.apply

variable {t u : Table} {w : Warehouse} {rows : List t.Row}

@[simp] theorem rows_put (t : Table) (w : Warehouse) (rows : List t.Row) :
    t.rows (t.put w rows) = rows := by
  cases t <;> rfl

theorem rows_put_of_ne (differ : u ≠ t) : u.rows (t.put w rows) = u.rows w := by
  cases t <;> cases u <;> first | rfl | exact absurd rfl differ

@[simp] theorem ids_put (t : Table) (w : Warehouse) (rows : List t.Row) :
    t.ids (t.put w rows) = rows.map t.rowId := by
  rw [ids, rows_put]

theorem ids_put_of_ne (differ : u ≠ t) : u.ids (t.put w rows) = u.ids w := by
  rw [ids, rows_put_of_ne differ, ids]

theorem ids_put_append {row : t.Row} :
    t.ids (t.put w (t.rows w ++ [row])) = t.ids w ++ [t.rowId row] := by
  rw [ids_put, List.map_append, List.map_singleton, ids]

/-- A row that is changed keeps its place among the ids. -/
theorem ids_put_replace {front back : List t.Row} {before after : t.Row}
    (found : t.rows w = front ++ before :: back) (same : t.rowId after = t.rowId before) :
    t.ids (t.put w (front ++ after :: back)) = t.ids w := by
  rw [ids_put, ids, found, List.map_append, List.map_cons, same, List.map_append, List.map_cons]

theorem find?_eq (t : Table) (w : Warehouse) (id : Int) :
    t.reference.find? w id = (t.rows w).find? (t.rowId · == id) := by
  cases t <;> rfl

theorem exists_find? {id : Int} (member : id ∈ t.ids w) :
    ∃ row, t.reference.find? w id = some row := by
  obtain ⟨row, inRows, same⟩ := List.mem_map.mp member
  rw [find?_eq, ← Option.isSome_iff_exists, List.find?_isSome]
  exact ⟨row, inRows, beq_iff_eq.mpr same⟩

end Table

/-! ## Fields that are set -/

/-- A value that is given stands after an edit, and else the value before it. -/
structure Takes {α : Type} (given : Option α) (before after : α) : Prop where
  held : ∀ a, given = some a → after = a
  kept : given = none → after = before

theorem takes_getD {α : Type} (given : Option α) (before : α) :
    Takes given before (given.getD before) := by
  constructor
  · rintro a rfl
    rfl
  · rintro rfl
    rfl

/-- As `takes_getD`, for fields that may be empty. An edit cannot empty them. -/
theorem takes_or {α : Type} (given before : Option α) :
    Takes (given.map some) before (given.or before) := by
  constructor
  · intro a same
    obtain ⟨value, rfl, rfl⟩ := Option.map_eq_some_iff.mp same
    rfl
  · intro none
    rw [Option.map_eq_none_iff.mp none, Option.none_or]

theorem Takes.iff_of_before {α : Type} {given : Option α} {before after : α} {P : α → Prop}
    (takes : Takes given before after) (holds : P before) :
    P after ↔ ∀ a, given = some a → P a := by
  constructor
  · intro now a same
    exact takes.held a same ▸ now
  · intro all
    cases same : given with
    | none => exact takes.kept same ▸ holds
    | some a => exact takes.held a same ▸ all a same

/-- What setting fields makes of a stop. Its id, its feed version and all that an input has no
field for stay. -/
structure StopSetInput.Fills (i : StopSetInput) (before after : Stop) : Prop where
  stopId : Takes i.stopId before.stopId after.stopId
  stopName : Takes i.stopName before.stopName after.stopName
  stopCode : Takes (i.stopCode.map some) before.stopCode after.stopCode
  stopDesc : Takes (i.stopDesc.map some) before.stopDesc after.stopDesc
  locationType : Takes i.locationType before.locationType after.locationType
  parentStation : Takes (i.parentStation.map some) before.parentStation after.parentStation
  levelId : Takes (i.levelId.map some) before.levelId after.levelId
  stopTimezone : Takes i.stopTimezone before.stopTimezone after.stopTimezone
  wheelchairBoarding :
    Takes (i.wheelchairBoarding.map some) before.wheelchairBoarding after.wheelchairBoarding
  platformCode : Takes (i.platformCode.map some) before.platformCode after.platformCode
  geometry : Takes i.geometry before.geometry after.geometry
  id : after.id = before.id
  feedVersionId : after.feedVersionId = before.feedVersionId
  feedVersionSha1 : after.feedVersionSha1 = before.feedVersionSha1
  feedOnestopId : after.feedOnestopId = before.feedOnestopId
  onestopId : after.onestopId = before.onestopId
  stopUrl : after.stopUrl = before.stopUrl
  zoneId : after.zoneId = before.zoneId
  ttsStopName : after.ttsStopName = before.ttsStopName

structure LevelSetInput.Fills (i : LevelSetInput) (before after : Level) : Prop where
  levelId : Takes i.levelId before.levelId after.levelId
  levelName : Takes (i.levelName.map some) before.levelName after.levelName
  levelIndex : Takes i.levelIndex before.levelIndex after.levelIndex
  parentStation : Takes (i.parentStation.map some) before.parentStation after.parentStation
  id : after.id = before.id
  feedVersionId : after.feedVersionId = before.feedVersionId

structure PathwaySetInput.Fills (i : PathwaySetInput) (before after : Pathway) : Prop where
  pathwayId : Takes i.pathwayId before.pathwayId after.pathwayId
  fromStopId : Takes i.fromStopId before.fromStopId after.fromStopId
  toStopId : Takes i.toStopId before.toStopId after.toStopId
  pathwayMode : Takes i.pathwayMode before.pathwayMode after.pathwayMode
  isBidirectional : Takes i.isBidirectional before.isBidirectional after.isBidirectional
  length : Takes (i.length.map some) before.length after.length
  traversalTime : Takes (i.traversalTime.map some) before.traversalTime after.traversalTime
  id : after.id = before.id
  feedVersionId : after.feedVersionId = before.feedVersionId
  stairCount : after.stairCount = before.stairCount
  maxSlope : after.maxSlope = before.maxSlope
  minWidth : after.minWidth = before.minWidth
  signpostedAs : after.signpostedAs = before.signpostedAs
  reverseSignpostedAs : after.reverseSignpostedAs = before.reverseSignpostedAs

namespace Table

def Fills : (t : Table) → t.Input → t.Row → t.Row → Prop
  | .stops => StopSetInput.Fills
  | .levels => LevelSetInput.Fills
  | .pathways => PathwaySetInput.Fills

theorem fills_apply (t : Table) (input : t.Input) (row : t.Row) :
    t.Fills input row (t.apply input row) := by
  cases t with
  | stops =>
    exact ⟨takes_getD _ _, takes_getD _ _, takes_or _ _, takes_or _ _, takes_getD _ _,
      takes_or _ _, takes_or _ _, takes_getD _ _, takes_or _ _, takes_or _ _, takes_getD _ _,
      rfl, rfl, rfl, rfl, rfl, rfl, rfl, rfl⟩
  | levels => exact ⟨takes_getD _ _, takes_or _ _, takes_getD _ _, takes_or _ _, rfl, rfl⟩
  | pathways =>
    exact ⟨takes_getD _ _, takes_getD _ _, takes_getD _ _, takes_getD _ _, takes_getD _ _,
      takes_or _ _, takes_or _ _, rfl, rfl, rfl, rfl, rfl, rfl, rfl⟩

end Table

theorem StopSetInput.fills_named {i : StopSetInput} {stopId : String}
    (called : i.stopId = some stopId) (s : Stop) : i.Fills s (i.apply { s with stopId }) := by
  have same : i.apply { s with stopId } = i.apply s := by
    simp only [apply, called, Option.getD_some]
  exact same ▸ Table.fills_apply .stops i s

theorem LevelSetInput.fills_named {i : LevelSetInput} {levelId : String}
    (called : i.levelId = some levelId) (l : Level) : i.Fills l (i.apply { l with levelId }) := by
  have same : i.apply { l with levelId } = i.apply l := by
    simp only [apply, called, Option.getD_some]
  exact same ▸ Table.fills_apply .levels i l

theorem PathwaySetInput.fills_named {i : PathwaySetInput} {pathwayId : String}
    {fromStopId toStopId : Int} (called : i.pathwayId = some pathwayId)
    (begins : i.fromStopId = some fromStopId) (ends : i.toStopId = some toStopId) (p : Pathway) :
    i.Fills p (i.apply { p with pathwayId, fromStopId, toStopId }) := by
  have same : i.apply { p with pathwayId, fromStopId, toStopId } = i.apply p := by
    simp only [apply, called, begins, ends, Option.getD_some]
  exact same ▸ Table.fills_apply .pathways i p

namespace Table

theorem Fills.rowId {t : Table} {input : t.Input} {before after : t.Row}
    (fills : t.Fills input before after) : t.rowId after = t.rowId before := by
  cases t with
  | stops => exact StopSetInput.Fills.id fills
  | levels => exact LevelSetInput.Fills.id fills
  | pathways => exact PathwaySetInput.Fills.id fills

/-- The row that a create begins with: it has its id and belongs to its feed version, and all else
has its default. A stop also has the sha1 of its version and, if there is one, the feed's onestop
id. -/
def blank? (w : Warehouse) (id : Int) : (t : Table) → t.Input → Option t.Row
  | .stops, input => do
    let feedVersionId ← input.feedVersionId
    let version ← w.feedVersion? feedVersionId
    let feedOnestopId := ((w.feed? version.feedId).map (·.onestopId)).getD ""
    some { id, feedVersionId, feedVersionSha1 := version.sha1, feedOnestopId }
  | .levels, input => input.feedVersionId.map fun feedVersionId => { id, feedVersionId }
  | .pathways, input => input.feedVersionId.map fun feedVersionId => { id, feedVersionId }

theorem rowId_blank {t : Table} {w : Warehouse} {id : Int} {input : t.Input} {row : t.Row}
    (starts : t.blank? w id input = some row) : t.rowId row = id := by
  cases t with
  | stops =>
    obtain ⟨_, _, starts⟩ := Option.bind_eq_some_iff.mp starts
    obtain ⟨_, _, starts⟩ := Option.bind_eq_some_iff.mp starts
    obtain rfl := Option.some.inj starts
    rfl
  | levels =>
    obtain ⟨_, _, rfl⟩ := Option.map_eq_some_iff.mp starts
    rfl
  | pathways =>
    obtain ⟨_, _, rfl⟩ := Option.map_eq_some_iff.mp starts
    rfl

/-- What a create has to be given: what the row is called in its feed version, and that version. The
version of a stop or a level exists, and so do the stops at the ends of a pathway. -/
def Admits (w : Warehouse) : (t : Table) → t.Input → Prop
  | .stops, input =>
    (∃ v ∈ w.feedVersions, input.feedVersionId = some v.id) ∧ input.stopId.isSome
  | .levels, input =>
    (∃ v ∈ w.feedVersions, input.feedVersionId = some v.id) ∧ input.levelId.isSome
  | .pathways, input =>
    input.feedVersionId.isSome ∧ input.pathwayId.isSome ∧
      (∃ s ∈ w.stops, input.fromStopId = some s.id) ∧ (∃ s ∈ w.stops, input.toStopId = some s.id)

end Table

end Transit
