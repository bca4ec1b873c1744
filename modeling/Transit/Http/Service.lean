import Transit.Field.Command
import Transit.Field.Feed
import Transit.Field.Root
import Transit.Field.Stop
import Transit.Http.Query
import Transit.Http.View
set_option autoImplicit false

/-!
The web service: requests by method, path and headers, and their responses. A request is a fresh
request of the gateway, made by the caller that its headers name.
-/

namespace Transit.Http

structure Request where
  method : String := "GET"
  path : String
  /-- In the order of the names. -/
  headers : List (String × String) := []
  deriving DecidableEq, Repr

/-- A response. The body is missing where only the status counts. -/
structure Response where
  status : Nat
  body : Option Json := none

namespace Response

def ok (body : Json) : Response := ⟨200, some body⟩

/-- The request cannot be read. -/
def badRequest : Response := ⟨400, none⟩

def statusOf : FieldError → Nat
  | .invalidInput _ => 400
  | .notFound .. => 404
  | .accessDenied => 403
  | .timezoneUnavailable => 422
  | .collaborator .. => 502
  | .cancelled => 408

def errorBody (e : FieldError) : Json := .obj [("error", .str e.message)]

def ofError (e : FieldError) : Response := ⟨statusOf e, some (errorBody e)⟩

def toJson (r : Response) : Json := .obj [
  ("status", .int r.status), ("body", .ofOption id r.body)]

end Response

/-- What a path leads to. -/
inductive Target
  | health
  | agencies
  | routes
  | stopTimes (stop : String)
  | departures (stop : String)
  | vehicles
  | feedAlerts (feed : String)
  | me
  | importVersion (sha1 : String)
  deriving DecidableEq, Repr

namespace Target

/-- The parts of a path between its slashes, escapes included. A part may be empty. -/
def ofSegments? : List String → Option Target
  | ["", "health"] => some .health
  | ["", "agencies"] => some .agencies
  | ["", "routes"] => some .routes
  | ["", "stops", stop, "stop_times"] => some (.stopTimes stop)
  | ["", "stops", stop, "departures"] => some (.departures stop)
  | ["", "vehicles"] => some .vehicles
  | ["", "feeds", feed, "alerts"] => some (.feedAlerts feed)
  | ["", "me"] => some .me
  | ["", "admin", "feed_versions", sha1, "import"] => some (.importVersion sha1)
  | _ => none

def admits (t : Target) (method : String) : Bool :=
  match t with
  | .importVersion _ => method == "POST"
  | _ => method == "GET" || method == "HEAD"

end Target

namespace Request

/-- A character of a path or a query that needs no escape. -/
def isPlain (inQuery : Bool) (c : Char) : Bool :=
  let n := c.toNat
  if inQuery then n == 0x21 || (0x24 ≤ n && n ≠ 0x3C && n ≠ 0x3E)
  else n == 0x21 || n == 0x22 || (0x24 ≤ n && n ≠ 0x3C && n ≠ 0x3E && n ≠ 0x60)

/-- The path before the question mark and the query after it; what follows a number sign is cut
off. -/
def splitTarget (r : Request) : List Char × List Char :=
  let cs := r.path.toList.takeWhile (· != '#')
  (cs.takeWhile (· != '?'), (cs.dropWhile (· != '?')).drop 1)

/-- A character of a method or of the name of a header. -/
def isTokenChar (c : Char) : Bool :=
  c.isAlphanum || "!#$%&'*+-.^_|~".toList.contains c || c.toNat == 0x60

def isToken (s : String) : Bool := !s.isEmpty && s.toList.all isTokenChar

/-- A character that the value of a header may hold. -/
def isHeaderChar (c : Char) : Bool := c == '\t' || (0x20 ≤ c.toNat && c.toNat ≠ 0x7F)

/-- The request can be sent at all. -/
def isValid (r : Request) : Bool :=
  let (path, query) := r.splitTarget
  isToken r.method && !r.path.isEmpty && path.all (isPlain false) && query.all (isPlain true)
    && r.headers.all fun (name, value) => isToken name && value.toList.all isHeaderChar

/-- The first value of a header. It counts if it is ASCII and not blank, without white space around
it. -/
def header? (r : Request) (name : String) : Option String := do
  let (_, value) ← r.headers.find? fun h => h.1.toLower == name
  if value.toList.all fun c => c.toNat < 0x7F then
    (some (Text.trim value)).filter (· != "")
  else none

/-- Who makes the request: nobody without a name, else the named with the roles that the request
asserts and those that the name is granted. -/
def caller (r : Request) (granted : List (String × List String)) : User :=
  match r.header? "x-user-name" with
  | none => {}
  | some name =>
    let roles := (r.header? "x-user-roles").elim [] fun roles =>
      ((roles.splitOn ",").map Text.trim).filter (· != "")
    (User.withRoles { name } roles).withGrantedRoles granted

end Request

/-- A handler reads the query, which may be wrong, and then resolves fields. -/
abbrev Handler := Option (Resolve Json)

namespace Handler

def agencies (q : Query) : Handler := do
  let limit ← q.int32 "limit"
  let after ← q.text "after"
  let filter : AgencyFilter := {
    onestopId := ← q.text "onestop_id"
    search := ← q.text "search"
    adm0Iso := ← q.text "adm0_iso"
    adm1Iso := ← q.text "adm1_iso" }
  some do return .ofList Agency.toJson (← Root.agencies { limit, after, filter })

def routes (q : Query) : Handler := do
  let limit ← q.int32 "limit"
  let after ← q.text "after"
  let filter : RouteFilter := {
    onestopId := ← q.text "onestop_id"
    feedOnestopId := ← q.text "feed_onestop_id"
    routeType := ← q.int32 "route_type"
    search := ← q.text "search" }
  some do return .ofList Route.toJson (← Root.routes { limit, after, filter })

/-- How many rows of a stop a query asks for, and which. -/
def rowsQuery? (q : Query) : Option (Option Int × StopTimeFilter) := do
  let limit ← q.int32 "limit"
  let filter : StopTimeFilter := {
    serviceDate := ← q.optional Date.ofText? "service_date"
    date := ← q.optional Date.ofText? "date"
    startTime := ← q.int32 "start_time"
    endTime := ← q.int32 "end_time"
    next := ← q.int32 "next"
    relativeDate := ← q.optional RelativeDate.ofName? "relative_date"
    useServiceWindow := ← q.bool "use_service_window" }
  some (limit, filter)

/-- Rows of the stop with an id. -/
def stopRows (rows : Stop → Option Int → Option StopTimeFilter → Resolve (List StopTime))
    (stop : String) (q : Query) : Handler := do
  let id ← Number.intOfText? .int64 (← segmentText? stop)
  let (limit, filter) ← rowsQuery? q
  some do
    match ← Resolve.row .stop id "stop" with
    | none => throw (.notFound "stop" (toString id))
    | some stop => return .ofList RowView.toJson (← RowView.ofRows (← rows stop limit filter))

def vehicles (q : Query) : Handler := do
  let limit ← q.int32 "limit"
  let feed ← q.text "feed_onestop_id"
  let filter : VehiclePositionFilter := {
    feedOnestopIds := feed.toList
    routeId := ← q.text "route_id"
    tripId := ← q.text "trip_id" }
  some do
    return .ofList (VehiclePosition.toJson Number.widenByText) (← Root.vehiclePositions limit filter)

def feedAlerts (feed : String) (q : Query) : Handler := do
  let onestopId ← segmentText? feed
  let active ← q.bool "active"
  let limit ← q.int32 "limit"
  some do
    let filter : FeedFilter := { onestopId := some onestopId }
    match (← Root.feeds { limit := some 1, filter }).head? with
    | none => throw (.notFound "feed" onestopId)
    | some feed => return .ofList Alert.toJson (← feed.alerts active limit)

def importVersion (sha1 : String) : Handler := do
  let sha1 ← segmentText? sha1
  some do return ImportResult.toJson (← Command.importVersion sha1)

def of (q : Query) : Target → Handler
  | .health => some (pure (.str "ok"))
  | .agencies => agencies q
  | .routes => routes q
  | .stopTimes stop => stopRows Stop.stopTimes stop q
  | .departures stop => stopRows Stop.departures stop q
  | .vehicles => vehicles q
  | .feedAlerts feed => feedAlerts feed q
  | .me => some do return (← Root.me).toJson
  | .importVersion sha1 => importVersion sha1

/-- The response to a request that has been understood. -/
def respond (h : Handler) : Task Response :=
  match h with
  | none => .done .badRequest
  | some resolve => do
    match ← resolve.run with
    | .ok body => return .ok body
    | .error e => return .ofError e

end Handler

namespace Request

/-- A request for the head alone gets no body. -/
def headOnly (r : Response) : Response :=
  { r with body := if r.status == 200 then some (.str "") else none }

def respond (r : Request) : Task Response :=
  let (path, query) := r.splitTarget
  match Target.ofSegments? ((path.splitOn '/').map String.ofList) with
  | none => .done ⟨404, none⟩
  | some target =>
    if target.admits r.method then do
      let response ← (Handler.of (Query.ofChars query) target).respond
      return if r.method == "HEAD" then headOnly response else response
    else .done ⟨405, none⟩

/-- Answer a request over a gateway, apart from the request that the gateway is answering. -/
def serve (r : Request) (g : Gateway) : Response × Gateway :=
  let (response, after) := r.respond.run (g.startRequest (r.caller g.granted))
  (response, { after with request := g.request })

end Request

end Transit.Http
