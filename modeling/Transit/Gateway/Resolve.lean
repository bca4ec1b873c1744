import Transit.Gateway.Realtime
set_option autoImplicit false

/-!
Fields: tasks that end with a value or with the reason why there is none. An error stays with the
field that it belongs to.
-/

namespace Transit

abbrev Resolve (α : Type) := ExceptT FieldError Task α

namespace Resolve

variable {α : Type}

def task (t : Task α) : Resolve α :=
  ExceptT.mk do return .ok (← t)

def ofExcept (r : Except FieldError α) : Resolve α :=
  ExceptT.mk (pure r)

def look (view : Gateway → α) : Resolve α := task (Task.look view)

/-- A look-up on behalf of a field. -/
def on (field : String) (t : Task (Except LookupError α)) : Resolve α :=
  ExceptT.mk do
    match ← t with
    | .ok a => return .ok a
    | .error e => return .error (.ofLookup field e)

/-- The value of a loaded key, on behalf of a field. -/
def ofLoaded (field : String) : Except LoadError α → Except FieldError α
  | .ok a => .ok a
  | .error e => .error (.ofLoad field e)

/-- The value of a key, which is loaded in a batch. -/
def load (l : Lookup) (key : l.Key) (field : String) : Resolve l.Value :=
  ExceptT.mk (.load l [key] fun values => .done
    (match values with
    | v :: _ => ofLoaded field v
    | [] => .error .cancelled))

/-- The row of an id. -/
def row (r : Reference) (id : Int) (field : String) : Resolve (Option r.Row) :=
  load (.one r) id field

/-- The row that an id refers to, if there is an id. -/
def reference (r : Reference) (id : Option Int) (field : String) : Resolve (Option r.Row) :=
  match id with
  | none => pure none
  | some id => row r id field

/-- The rows of a parent. -/
def rows (r : Relation) (parent : r.Parent) (field : String) (limit : Option Int)
    (filter : Option r.Filter) : Resolve (List r.Row) :=
  load (.many r) ⟨parent, limit, filter⟩ field

/-- Ask the warehouse; the call is counted under a name. -/
def ask (method : String) (query : Warehouse → α) : Resolve α :=
  task (Task.ask method query)

/-- Refuse callers who do not hold a role. -/
def requireRole (role : String) : Resolve Unit := do
  ofExcept (← look fun g => g.request.user.requireRole role)

/-- Stop once the request has been cancelled. -/
def checkCancelled : Resolve Unit := do
  if ← look (·.request.cancelled) then throw .cancelled

/-- What alerts are asked for: those active now, or all. -/
def alertQuery (active : Option Bool) (limit : Option Int) : Resolve Alert.Query :=
  look fun g => ⟨g.limit limit, active.getD false, g.now⟩

/-- The alerts with a property among those that bear on a feed version. -/
def alerts (versionId : Int) (active : Option Bool) (limit : Option Int)
    (picks : Realtime.AlertMessage → Bool) : Resolve (List Alert) := do
  let query ← alertQuery active limit
  on "alerts" (Task.inSnapshot versionId (·.selectAlerts query picks))

end Resolve

end Transit
