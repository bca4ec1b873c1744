import Transit.Http.Service
import Transit.Selection.Command
import Transit.Selection.Realtime
import Transit.Warehouse.Json
set_option autoImplicit false

/-!
Sessions: a gateway over some data, and the steps that clients take with it, one after another or
together. A step is a selection by its name or an act on the gateway itself.
-/

namespace Transit.Session

/-- An act that answers that it is done. -/
def acted (act : Select Unit) : Select Json := do
  act
  return .bool true

/-- A realtime message as it is published: as a value, or in bytes. -/
def readSource (args : Args) : Select Realtime.Source := do
  match ← args.optional Realtime.Message.ofJson? "message" with
  | some message => return .ofMessage message
  | none =>
    let bytes ← args.required Hex.ofJson? "hex"
    match Realtime.Source.decode? bytes with
    | some source => return source
    | none => throw (.lookup (.invalidQuery "invalid GTFS-RT message"))

def publish (args : Args) : Select Unit := do
  let key ← args.required Json.readText "key"
  let source ← readSource args
  Select.change (·.publish key source)

def setClock (args : Args) : Select Unit := do
  let now ← args.required Instant.ofJson? "at"
  Select.change ({ · with now })

def newRequest (args : Args) : Select Unit := do
  let user ← args.withDefault User.ofJson? "user" {}
  Select.change (·.startRequest user)

def callsToJson (g : Gateway) : Json :=
  .ofMap (fun n : Nat => .int n) g.callCounts

def jobToJson (j : Job) : Json := .arr [.str j.kind, .ofTexts j.args]

def dimensionToJson (d : Dimension) : Json := .ofTexts [d.meter, d.key, d.value]

def eventToJson (e : MeterEvent) : Json := .arr [
  .str e.name, .float e.value, .ofList (fun (k, v) => .ofTexts [k, v]) e.dimensions]

def readDimension (j : Json) : Option Dimension := do
  match ← Json.readTexts j with
  | [meter, key, value] => some ⟨meter, key, value⟩
  | _ => none

def readPair (j : Json) : Option (String × String) := do
  match ← Json.readTexts j with
  | [k, v] => some (k, v)
  | _ => none

def addDimension (args : Args) : Select Unit := do
  let d ← args.required readDimension "args"
  Select.change fun g =>
    { g with request := { g.request with meter := g.request.meter.addDimension d } }

def meterEvent (args : Args) : Select Json := do
  let name ← args.required Json.readText "name"
  let value ← args.required Json.readFloat "value"
  let dimensions ← args.required (Json.readList readPair) "dims"
  Select.change fun g =>
    { g with request := { g.request with meter := g.request.meter.report name value dimensions } }
  return .ofList eventToJson (← Select.look (·.request.meter.events))

def hasRole (args : Args) : Select Json := do
  let role ← args.required Json.readText "role"
  return .bool (← Select.look (·.request.user.hasRole role))

def requireRole (args : Args) : Select Unit := do
  let role ← args.required Json.readText "role"
  Select.ofField (Resolve.requireRole role)

/-- A user with the roles that its name is granted. -/
def checkUser (args : Args) : Select Json := do
  let user ← args.withDefault User.ofJson? "user" {}
  return (user.withGrantedRoles (← Select.look (·.granted))).toJson

def limits (args : Args) : Select Json := do
  let limit ← args.limit
  let (ordinary, large) ← Select.look fun g => (g.limit limit, g.largeLimit limit)
  return .arr [.int ordinary, .int large]

/-- A request of the web service. -/
def http (args : Args) : Select Json := do
  let method ← args.withDefault Json.readText "method" "GET"
  let path ← args.required Json.readText "path"
  let headers ← args.withDefault Json.readTextMap "headers" []
  let request : Http.Request := { method, path, headers }
  if request.isValid then
    return (← Select.task (Task.update request.serve)).toJson
  else throw .malformed

/-- Acts on the gateway, and what it says about itself. -/
def acts : List (String × RootSelection) := [
  ("clock", fun args => acted (setClock args)),
  ("publish", fun args => acted (publish args)),
  ("cancel", fun _ => acted (Select.change Gateway.cancel)),
  ("new_request", fun args => acted (newRequest args)),
  ("calls", fun _ => Select.look callsToJson),
  ("jobs", fun _ => do return .ofList jobToJson (← Select.look (·.jobs))),
  ("meter", fun _ => do
    return .ofList dimensionToJson (← Select.look (·.request.meter.dimensions))),
  ("add_dimension", fun args => acted (addDimension args)),
  ("meter_event", meterEvent),
  ("has_role", hasRole),
  ("require_role", fun args => acted (requireRole args)),
  ("check_user", checkUser),
  ("limits", limits),
  ("http", http)]

/-- The part of a name before its first point, and the part after it. -/
def splitName (name : String) : String × Option String :=
  let cs := name.toList
  let front := cs.takeWhile (· != '.')
  (String.ofList front,
   if front.length < cs.length then some (String.ofList (cs.drop (front.length + 1))) else none)

/-- The selection of a name. -/
def selection? (name : String) : Option RootSelection :=
  match splitName name with
  | (_, none) => (acts.lookup name).or (RootSelection.all.lookup name)
  | ("mutation", some command) => RootSelection.commands.lookup command
  | ("rt", some field) => RootSelection.realtime.lookup field
  | ("lookup", some field) => RootSelection.lookups.lookup field
  | (entity, some field) => (Entity.all.find? (·.name == entity)).map fun e => e.select field

/-- Only some members of an object. -/
def pickMembers (names : List String) : Json → Json
  | .obj members => .obj (members.filter fun (k, _) => names.contains k)
  | j => j

/-- Only some members of an object, or of each object in a list. -/
def pick (names : List String) : Json → Json
  | .arr items => .arr (items.map (pickMembers names))
  | j => pickMembers names j

/-- More rounds than any tasks together need. -/
def manyRounds : Nat := 1000000

/-- Selections that run together; each has its own answer. -/
def together (selections : List (Select Json)) : Select Json := do
  let answers ← Select.task (Task.update fun g =>
    Task.runTogether manyRounds (selections.map Select.answer) g)
  return .ofList (fun answer => Answer.toJson (answer.getD (.error .malformed))) answers

/-- The selection that a step makes. Steps that run together stand one level deeper than the step
that holds them. -/
def step : (depth : Nat) → Json → Select Json
  | 0, _ => throw .malformed
  | depth + 1, j => do
    let args : Args ← Select.ofRead j.fields?
    let name ← args.required Json.readText "do"
    let picked ← args.optional Json.readTexts "pick"
    let answer ←
      if name == "all" then do
        let steps ← args.required (Json.readList some) "steps"
        together (steps.map (step depth))
      else match selection? name with
        | some select => select args
        | none => throw .malformed
    return match picked with
      | some names => pick names answer
      | none => answer

/-- The answers to steps that are taken one after another. -/
def run (g : Gateway) : List Json → List Answer
  | [] => []
  | j :: rest =>
    let (answer, g) := (step Json.maxDepth j).answer.run g
    answer :: run g rest

def readSettings (j : Json) : Option Settings := do
  let f ← j.fields?
  let d : Settings := { loaderWait := 10 }
  let nat (name : String) (absent : Nat) : Option Nat := do
    some ((← f.optional Json.readNat64 name).getD absent)
  some { d with
    loaderBatchSize := ← nat "loader_batch_size" d.loaderBatchSize
    stopTimeBatchSize := ← nat "stop_time_batch_size" d.stopTimeBatchSize
    defaultLimit := ← nat "default_limit" d.defaultLimit
    maxLimit := ← nat "max_limit" d.maxLimit
    maxLimitLarge := ← nat "max_limit_large" d.maxLimitLarge
    maxRadius := (← f.optional Json.readFloat "max_radius").getD d.maxRadius
    lookbehind := (← f.optional Json.readInt32 "lookbehind_secs").getD d.lookbehind }

/-- When sessions begin unless they say otherwise. -/
def startTime : Instant := ⟨1527720600, 0⟩

/-- A gateway over some data, before anything is published. -/
def prepare (args : Args) : Select Gateway := do
  let warehouse ← args.withDefault Warehouse.ofJson? "data" {}
  let now ← args.withDefault Instant.ofJson? "clock" startTime
  let settings ← args.withDefault readSettings "config" { loaderWait := 10 }
  let granted ← args.withDefault (Json.readMap Json.readTexts) "checker" []
  let user ← args.withDefault User.ofJson? "user" {}
  return { warehouse, settings, granted, now, request := .start settings user }

/-- Publish what the session begins with. -/
def publishAll (messages : List Json) : Select Unit :=
  messages.forM fun j => do publish (← Select.ofRead j.fields?)

/-- The gateway of a session and its steps. -/
def open? (args : Args) : Except SelectError (Gateway × List Json) :=
  let blank : Gateway := { request := .start {} {} }
  let setUp : Select (Gateway × List Json × List Json) := do
    let gateway ← prepare args
    let messages ← args.withDefault (Json.readList some) "rt" []
    let steps ← args.required (Json.readList some) "steps"
    return (gateway, messages, steps)
  match (setUp.run.run blank).1 with
  | .error e => .error e
  | .ok (gateway, messages, steps) =>
    match (publishAll messages).run.run gateway with
    | (.error e, _) => .error e
    | (.ok (), gateway) => .ok (gateway, steps)

end Transit.Session
