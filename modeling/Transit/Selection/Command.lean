import Transit.Field.Command
import Transit.Selection.Root
import Transit.Text.Hex
set_option autoImplicit false

/-!
Commands by name.
-/

namespace Transit.RootSelection

/-- A command that takes one argument. -/
def unary {α β : Type} (name : String) (read : Json → Option α) (write : β → Json)
    (command : α → Resolve β) : RootSelection := fun args => do
  return write (← Select.ofField (command (← args.required read name)))

/-- An edit by the fields to be set. -/
def edit {α β : Type} (read : Json → Option α) (write : β → Json) (command : α → Resolve β) :
    RootSelection :=
  unary "input" read write command

def deletion (command : Int → Resolve DeleteResult) : RootSelection :=
  unary "id" Json.readInt64 DeleteResult.toJson command

/-- The answer of a command that returns nothing. -/
def done : Unit → Json := fun _ => .bool true

def fetchVersion : RootSelection := fun args => do
  let _ ← args.required Json.readText "feed"
  let url ← args.optional Json.readText "url"
  let file ← args.optional Hex.ofJson? "file"
  return FetchResult.toJson (← Select.ofField (Command.fetchVersion url file))

def fetchRealtime : RootSelection := fun args => do
  let _ ← args.required Json.readText "feed"
  let url ← args.withDefault Json.readText "url" ""
  let urlType ← args.required Json.readText "url_type"
  return done (← Select.ofField (Command.fetchRealtime url urlType))

def fetchBikeShare : RootSelection := fun args => do
  let _ ← args.required Json.readText "feed"
  let url ← args.withDefault Json.readText "url" ""
  return done (← Select.ofField (Command.fetchBikeShare url))

def validateFeed : RootSelection := fun args => do
  let url ← args.optional Json.readText "url"
  let file ← args.optional Hex.ofJson? "file"
  let _ ← args.withDefault Json.readTexts "realtime_urls" []
  return ValidationResult.toJson (← Select.ofField (Command.validateFeed url file))

def commands : List (String × RootSelection) := [
  ("stop_create", edit StopSetInput.ofJson? Stop.toJson Command.createStop),
  ("stop_update", edit StopSetInput.ofJson? Stop.toJson Command.updateStop),
  ("stop_delete", deletion Command.deleteStop),
  ("level_create", edit LevelSetInput.ofJson? Level.toJson Command.createLevel),
  ("level_update", edit LevelSetInput.ofJson? Level.toJson Command.updateLevel),
  ("level_delete", deletion Command.deleteLevel),
  ("pathway_create", edit PathwaySetInput.ofJson? Pathway.toJson Command.createPathway),
  ("pathway_update", edit PathwaySetInput.ofJson? Pathway.toJson Command.updatePathway),
  ("pathway_delete", deletion Command.deletePathway),
  ("feed_version_fetch", fetchVersion),
  ("feed_rt_fetch", fetchRealtime),
  ("gbfs_fetch", fetchBikeShare),
  ("feed_fetch_enqueue",
    unary "feeds" Json.readTexts (fun n : Nat => .int n) Command.enqueueFetches),
  ("feed_version_import",
    unary "sha1" Json.readText ImportResult.toJson Command.importVersion),
  ("feed_version_unimport",
    unary "sha1" Json.readText UnimportResult.toJson Command.unimportVersion),
  ("feed_version_delete",
    unary "sha1" Json.readText RemovalResult.toJson Command.deleteVersion),
  ("validate_gtfs", validateFeed)]

end Transit.RootSelection
