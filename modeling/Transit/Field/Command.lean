import Transit.Gateway.Resolve
import Transit.Warehouse.Editing
set_option autoImplicit false

/-!
Commands: edits of stops, levels and pathways, and the life of feed versions. A command begins with
the role that its caller has to hold, before anything is looked at or counted.
-/

namespace Transit

namespace Command

/-- An edit of the warehouse on behalf of a field; it is counted under a name, also when it fails. -/
def edit {α : Type} (method : String) (change : Warehouse → Warehouse.Edited α) : Resolve α :=
  Resolve.on method (Task.update fun g =>
    let (answer, warehouse) := change g.warehouse
    (answer, { g.record method with warehouse }))

/-- The row of an id as it is now, whatever the request's loaders hold. -/
def reload (r : Reference) (entity : String) (id : Int) : Resolve r.Row := do
  match ← Resolve.ask r.method (r.find? · id) with
  | some row => return row
  | none => throw (.notFound entity (toString id))

def requireId (id : Option Int) : Resolve Unit :=
  if id.isNone then throw (.invalidInput "id is required") else pure ()

def createStop (input : StopSetInput) : Resolve Stop := do
  Resolve.requireRole Role.admin
  reload .stop "stop" (← edit "stop_create" (·.createStop input))

def updateStop (input : StopSetInput) : Resolve Stop := do
  Resolve.requireRole Role.admin
  requireId input.id
  reload .stop "stop" (← edit "stop_update" (·.updateStop input))

def deleteStop (id : Int) : Resolve DeleteResult := do
  Resolve.requireRole Role.admin
  edit "stop_delete" (·.deleteStop id)
  return ⟨id⟩

def createLevel (input : LevelSetInput) : Resolve Level := do
  Resolve.requireRole Role.admin
  reload .level "level" (← edit "level_create" (·.createLevel input))

def updateLevel (input : LevelSetInput) : Resolve Level := do
  Resolve.requireRole Role.admin
  requireId input.id
  reload .level "level" (← edit "level_update" (·.updateLevel input))

def deleteLevel (id : Int) : Resolve DeleteResult := do
  Resolve.requireRole Role.admin
  edit "level_delete" (·.deleteLevel id)
  return ⟨id⟩

def createPathway (input : PathwaySetInput) : Resolve Pathway := do
  Resolve.requireRole Role.admin
  reload .pathway "pathway" (← edit "pathway_create" (·.createPathway input))

def updatePathway (input : PathwaySetInput) : Resolve Pathway := do
  Resolve.requireRole Role.admin
  requireId input.id
  reload .pathway "pathway" (← edit "pathway_update" (·.updatePathway input))

def deletePathway (id : Int) : Resolve DeleteResult := do
  Resolve.requireRole Role.admin
  edit "pathway_delete" (·.deletePathway id)
  return ⟨id⟩

/-- Fetch a static feed from an address or an upload. Nothing fetches it here. -/
def fetchVersion (url : Option String) (file : Option (List UInt8)) : Resolve FetchResult := do
  Resolve.requireRole Role.admin
  if url.isNone && file.isNone then throw (.invalidInput "a url or a file is required")
  return { fetchError := some "static fetch is not available" }

def requireUrl (url : String) : Resolve Unit :=
  if Text.isBlankText url then throw (.invalidInput "a url is required") else pure ()

/-- Fetch a realtime message of one kind. Nothing fetches it here. -/
def fetchRealtime (url urlType : String) : Resolve Unit := do
  Resolve.requireRole Role.admin
  if (Realtime.TopicKind.ofName? urlType).isNone then
    throw (.invalidInput ("unknown realtime url type " ++ Text.quoted urlType))
  requireUrl url
  Resolve.on "feed_rt_fetch" (pure (.error (.unsupported "realtime fetch")))

/-- Fetch a bike-share feed. Nothing fetches it here. -/
def fetchBikeShare (url : String) : Resolve Unit := do
  Resolve.requireRole Role.admin
  requireUrl url
  Resolve.on "gbfs_fetch" (pure (.error (.unsupported "gbfs fetch")))

/-- Leave static fetches to be done later; the number of them. -/
def enqueueFetches (feeds : List String) : Resolve Nat := do
  Resolve.requireRole Role.admin
  Resolve.task (Task.change fun g =>
    { g with jobs := g.jobs ++ feeds.map fun feed => ⟨"static-fetch", [feed]⟩ })
  return feeds.length

def versionBySha1 (sha1 : String) : Resolve FeedVersion := do
  let found ← Resolve.ask "find_feed_versions"
    (·.listFeedVersions { limit := 1, filter := some { sha1 := some sha1 } })
  match found.head? with
  | some v => return v
  | none => throw (.notFound "feed version" sha1)

def importVersion (sha1 : String) : Resolve ImportResult := do
  Resolve.requireRole Role.admin
  let v ← versionBySha1 sha1
  edit "feed_version_import" (·.importVersion v.id)
  return ⟨true⟩

def unimportVersion (sha1 : String) : Resolve UnimportResult := do
  Resolve.requireRole Role.admin
  let v ← versionBySha1 sha1
  edit "feed_version_unimport" (·.unimportVersion v.id)
  return ⟨true⟩

def deleteVersion (sha1 : String) : Resolve RemovalResult := do
  Resolve.requireRole Role.admin
  let v ← versionBySha1 sha1
  edit "feed_version_delete" (·.deleteVersion v.id)
  return ⟨true⟩

/-- How an archive begins. -/
def archiveStart : List UInt8 := [0x50, 0x4B, 0x03, 0x04]

/-- Judge an upload by whether it is an archive at all. -/
def validate (url : Option String) : Option (List UInt8) → ValidationResult
  | none => {
      failureReason := some
        (if url.isSome then "fetching by url is not available" else "no file or url given") }
  | some file =>
    if archiveStart.isPrefixOf file then { success := true }
    else {
      failureReason := some "not a zip archive"
      errors := ["file is not a zip archive"] }

def validateFeed (url : Option String) (file : Option (List UInt8)) : Resolve ValidationResult := do
  Resolve.requireRole Role.user
  return validate url file

end Command

end Transit
