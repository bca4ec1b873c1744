import Transit.Error
import Transit.Record.Edit
import Transit.Warehouse.Basic
set_option autoImplicit false

/-!
Edits of stops, levels and pathways, and the commands that import, unimport and delete feed
versions. Each answers with what it made or with an error, and with the warehouse after it.
-/

namespace Transit

/-- Take over the fields that are given. -/
def StopSetInput.apply (i : StopSetInput) (s : Stop) : Stop :=
  { s with
    stopId := i.stopId.getD s.stopId
    stopName := i.stopName.getD s.stopName
    stopCode := i.stopCode.or s.stopCode
    stopDesc := i.stopDesc.or s.stopDesc
    locationType := i.locationType.getD s.locationType
    parentStation := i.parentStation.or s.parentStation
    levelId := i.levelId.or s.levelId
    stopTimezone := i.stopTimezone.getD s.stopTimezone
    wheelchairBoarding := i.wheelchairBoarding.or s.wheelchairBoarding
    platformCode := i.platformCode.or s.platformCode
    geometry := i.geometry.getD s.geometry }

def LevelSetInput.apply (i : LevelSetInput) (l : Level) : Level :=
  { l with
    levelId := i.levelId.getD l.levelId
    levelName := i.levelName.or l.levelName
    levelIndex := i.levelIndex.getD l.levelIndex
    parentStation := i.parentStation.or l.parentStation }

def PathwaySetInput.apply (i : PathwaySetInput) (p : Pathway) : Pathway :=
  { p with
    pathwayId := i.pathwayId.getD p.pathwayId
    fromStopId := i.fromStopId.getD p.fromStopId
    toStopId := i.toStopId.getD p.toStopId
    pathwayMode := i.pathwayMode.getD p.pathwayMode
    isBidirectional := i.isBidirectional.getD p.isBidirectional
    length := i.length.or p.length
    traversalTime := i.traversalTime.or p.traversalTime }

namespace Warehouse

/-- The id of a new row: one more than the greatest in use. -/
def nextId (ids : List Int) : Int :=
  match ids with
  | [] => 1
  | id :: rest => Number.Range.int64.wrap (rest.foldl max id + 1)

def required {α : Type} (value : Option α) (field : String) : Except LookupError α :=
  match value with
  | some a => .ok a
  | none => .error (.invalidQuery (field ++ " is required"))

def missing {α : Type} (entity : String) (id : Int) : Except LookupError α :=
  .error (.notFound entity (toString id))

/-- Change the first row with a property. -/
def changeFirst {τ : Type} (wanted : τ → Bool) (change : τ → τ) : List τ → List τ
  | [] => []
  | r :: rest => if wanted r then change r :: rest else r :: changeFirst wanted change rest

/-- An edit's answer and the warehouse after it. -/
abbrev Edited (α : Type) := Except LookupError α × Warehouse

/-- An edit that checks before it writes: it answers with a changed warehouse, or fails before it has
changed anything. -/
def edited {α : Type} (w : Warehouse) (r : Except LookupError (α × Warehouse)) : Edited α :=
  match r with
  | .ok (a, w') => (.ok a, w')
  | .error e => (.error e, w)

/-- Put back the rows of a table without those of an id. The rows are gone by the time at which their
number tells whether there were any. -/
def deleteRows {τ : Type} (rows : List τ) (key : τ → Int) (id : Int) (put : List τ → Warehouse)
    (entity : String) : Edited Unit :=
  let kept := rows.filter (key · != id)
  (if kept.length == rows.length then missing entity id else .ok (), put kept)

def createStop (w : Warehouse) (i : StopSetInput) : Edited Int :=
  w.edited do
    let feedVersionId ← required i.feedVersionId "feed_version_id"
    let stopId ← required i.stopId "stop_id"
    match w.feedVersion? feedVersionId with
    | none => missing "feed version" feedVersionId
    | some version =>
      let id := nextId (w.stops.map (·.id))
      let stop : Stop := {
        id
        feedVersionId
        feedVersionSha1 := version.sha1
        feedOnestopId := ((w.feedOfVersion? feedVersionId).map (·.onestopId)).getD ""
        stopId }
      .ok (id, { w with stops := w.stops ++ [i.apply stop] })

def updateStop (w : Warehouse) (i : StopSetInput) : Edited Int :=
  w.edited do
    let id ← required i.id "id"
    if w.stops.any (·.id == id) then
      .ok (id, { w with stops := changeFirst (·.id == id) i.apply w.stops })
    else missing "stop" id

def deleteStop (w : Warehouse) (id : Int) : Edited Unit :=
  deleteRows w.stops (·.id) id (fun stops => { w with stops }) "stop"

def createLevel (w : Warehouse) (i : LevelSetInput) : Edited Int :=
  w.edited do
    let feedVersionId ← required i.feedVersionId "feed_version_id"
    let levelId ← required i.levelId "level_id"
    if (w.feedVersion? feedVersionId).isNone then missing "feed version" feedVersionId
    else
      let id := nextId (w.levels.map (·.id))
      let level : Level := { id, feedVersionId, levelId }
      .ok (id, { w with levels := w.levels ++ [i.apply level] })

def updateLevel (w : Warehouse) (i : LevelSetInput) : Edited Int :=
  w.edited do
    let id ← required i.id "id"
    if w.levels.any (·.id == id) then
      .ok (id, { w with levels := changeFirst (·.id == id) i.apply w.levels })
    else missing "level" id

def deleteLevel (w : Warehouse) (id : Int) : Edited Unit :=
  deleteRows w.levels (·.id) id (fun levels => { w with levels }) "level"

def createPathway (w : Warehouse) (i : PathwaySetInput) : Edited Int :=
  w.edited do
    let feedVersionId ← required i.feedVersionId "feed_version_id"
    let pathwayId ← required i.pathwayId "pathway_id"
    let fromStopId ← required i.fromStopId "from_stop_id"
    let toStopId ← required i.toStopId "to_stop_id"
    if (w.stop? fromStopId).isNone then missing "stop" fromStopId
    else if (w.stop? toStopId).isNone then missing "stop" toStopId
    else
      let id := nextId (w.pathways.map (·.id))
      let pathway : Pathway := { id, feedVersionId, pathwayId, fromStopId, toStopId }
      .ok (id, { w with pathways := w.pathways ++ [i.apply pathway] })

def updatePathway (w : Warehouse) (i : PathwaySetInput) : Edited Int :=
  w.edited do
    let id ← required i.id "id"
    if w.pathways.any (·.id == id) then
      .ok (id, { w with pathways := changeFirst (·.id == id) i.apply w.pathways })
    else missing "pathway" id

def deletePathway (w : Warehouse) (id : Int) : Edited Unit :=
  deleteRows w.pathways (·.id) id (fun pathways => { w with pathways }) "pathway"

/-- Make a version the active one of its feed. -/
def activate (w : Warehouse) (feedId versionId : Int) : Warehouse :=
  if w.feedStates.any (·.feedId == feedId) then
    let change (s : FeedState) : FeedState := { s with feedVersionId := some versionId }
    { w with feedStates := changeFirst (·.feedId == feedId) change w.feedStates }
  else
    let id := nextId (w.feedStates.map (·.id))
    { w with feedStates := w.feedStates ++ [{ id, feedId, feedVersionId := some versionId }] }

/-- Import a feed version, in place of an earlier import of it, and make it active. -/
def importVersion (w : Warehouse) (versionId : Int) : Edited Unit :=
  match w.feedVersion? versionId with
  | none => (missing "feed version" versionId, w)
  | some version =>
    let others := w.feedVersionImports.filter (·.feedVersionId != versionId)
    let id := nextId (others.map (·.id))
    let entry : FeedVersionImport := { id, feedVersionId := versionId, success := true }
    (.ok (), ({ w with feedVersionImports := others ++ [entry] }).activate version.feedId versionId)

/-- Undo the import of a feed version. No feed has it as its active version afterwards, also when
there turns out to have been no import to undo. -/
def unimportVersion (w : Warehouse) (versionId : Int) : Edited Unit :=
  let kept := w.feedVersionImports.filter (·.feedVersionId != versionId)
  let unimported := { w with
    feedVersionImports := kept
    feedStates := w.feedStates.map fun s =>
      if s.feedVersionId == some versionId then { s with feedVersionId := none } else s }
  if kept.length == w.feedVersionImports.length then
    (.error (.invalidQuery ("feed version " ++ toString versionId ++ " is not imported")), unimported)
  else (.ok (), unimported)

/-- Delete a feed version that is not imported. -/
def deleteVersion (w : Warehouse) (versionId : Int) : Edited Unit :=
  if w.feedVersionImports.any (·.feedVersionId == versionId) then
    (.error (.invalidQuery ("feed version " ++ toString versionId ++ " must be unimported first")), w)
  else
    deleteRows w.feedVersions (·.id) versionId (fun feedVersions => { w with feedVersions })
      "feed version"

end Warehouse

end Transit
