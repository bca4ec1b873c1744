import Transit.Gateway.Realtime
import Transit.Json.Parser
import Transit.Warehouse.Json
set_option autoImplicit false

/-!
A directory of data: the tables of the warehouse in one file of JSON, and realtime messages in a file
for each feed and kind of message.
-/

namespace Transit

/-- Files by their paths. -/
structure DataDirectory where
  texts : List (String × String) := []
  messages : List (String × Realtime.Bytes) := []
  deriving DecidableEq, Repr, Inhabited

namespace DataDirectory

def tablesFile : String := "warehouse.json"

/-- The tables. They are all or nothing: a row that cannot be read spoils the file. -/
def warehouse (d : DataDirectory) : Except LookupError Warehouse :=
  match d.texts.lookup tablesFile with
  | none => .error (.backend "failed to read")
  | some text =>
    match (Json.parse? text).bind Warehouse.ofJson? with
    | none => .error (.backend "failed to parse")
    | some w => .ok w

/-- The feed whose directory holds the file of a path. -/
def feedOf? (path : String) : Option String :=
  match path.splitOn "/" with
  | "realtime" :: feed :: _ :: _ => some feed
  | _ => none

/-- The feeds with a directory, in the order of their names. -/
def feeds (d : DataDirectory) : List String :=
  ((d.messages.filterMap fun (path, _) => feedOf? path).mergeSort fun a b => a ≤ b).eraseDups

/-- The messages that can be read, each with its topic. -/
def sources (d : DataDirectory) : List (Realtime.Topic × Realtime.Source) :=
  d.feeds.flatMap fun feed => Realtime.TopicKind.all.filterMap fun kind => do
    let bytes ← d.messages.lookup ("realtime/" ++ feed ++ "/" ++ kind.name ++ ".pb")
    some (⟨feed, kind⟩, ← Realtime.Source.decode? bytes)

/-- Publish all messages. -/
def install (d : DataDirectory) (g : Gateway) : Gateway :=
  d.sources.foldl (fun g (topic, source) => g.publish topic.key source) g

end DataDirectory

/-- The number of rows in each table that has any. -/
def Warehouse.sizes (w : Warehouse) : List (String × Nat) :=
  match w.toJson with
  | .obj tables => tables.filterMap fun
    | (name, .arr rows) => if rows.isEmpty then none else some (name, rows.length)
    | _ => none
  | _ => []

end Transit
