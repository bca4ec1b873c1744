import Transit.Gateway.Resolve
import Transit.Record.Display
set_option autoImplicit false

/-!
Selections: fields by their names, with arguments and answers as JSON. A selection may be wrong in
itself, may begin with a row that is not there, or may fail as its field does.
-/

namespace Transit

/-- Why a selection has no answer. -/
inductive SelectError
  /-- An unknown name, or an argument that is missing or of the wrong type. -/
  | malformed
  /-- The row of the given id does not exist. -/
  | noParent
  | field (cause : FieldError)
  | lookup (cause : LookupError)
  | load (cause : LoadError)
  deriving DecidableEq, Repr, Inhabited

/-- The code under which clients know an error. -/
def LookupError.code : LookupError → String
  | .notFound .. => "FinderNotFound"
  | .invalidQuery _ => "InvalidQuery"
  | .backend _ => "Backend"
  | .unsupported _ => "Unsupported"
  | .cancelled => "FinderCancelled"

def LoadError.code : LoadError → String
  | .cancelled => "LoaderCancelled"
  | .failed cause => cause.code

def FieldError.code : FieldError → String
  | .invalidInput _ => "InvalidInput"
  | .notFound .. => "NotFound"
  | .accessDenied => "AccessDenied"
  | .timezoneUnavailable => "TimezoneUnavailable"
  | .collaborator .. => "Collaborator"
  | .cancelled => "Cancelled"

namespace SelectError

def code : SelectError → String
  | .malformed => "bad_input"
  | .noParent => "no_object"
  | .field cause => cause.code
  | .lookup cause => cause.code
  | .load cause => cause.code

/-- A selection that is wrong in itself needs no words. -/
def message? : SelectError → Option String
  | .malformed => none
  | .noParent => none
  | .field cause => some cause.message
  | .lookup cause => some cause.message
  | .load cause => some cause.message

def toJson (e : SelectError) : Json := .obj
  [("error", .str e.code), ("message", .ofOption .str e.message?)]

end SelectError

/-- The answer to a selection. -/
abbrev Answer := Except SelectError Json

def Answer.toJson : Answer → Json
  | .ok j => .obj [("ok", j)]
  | .error e => e.toJson

abbrev Select (α : Type) := ExceptT SelectError Task α

namespace Select

variable {α : Type}

def task (t : Task α) : Select α :=
  ExceptT.mk do return .ok (← t)

def look (view : Gateway → α) : Select α := task (Task.look view)

def change (f : Gateway → Gateway) : Select Unit := task (Task.change f)

def ofExcept (r : Except SelectError α) : Select α :=
  ExceptT.mk (pure r)

def ofField (r : Resolve α) : Select α :=
  ExceptT.mk do
    match ← r.run with
    | .ok a => return .ok a
    | .error e => return .error (.field e)

def ofLookup (t : Task (Except LookupError α)) : Select α :=
  ExceptT.mk do
    match ← t with
    | .ok a => return .ok a
    | .error e => return .error (.lookup e)

/-- What a reader made of an argument. -/
def ofRead (read : Option α) : Select α :=
  ofExcept (read.elim (.error .malformed) .ok)

/-- The answer as a value, errors included. -/
def answer (s : Select Json) : Task Answer := s.run

end Select

/-- The arguments of a selection. -/
abbrev Args := Json.Fields

namespace Args

variable {α : Type}

def required (args : Args) (read : Json → Option α) (name : String) : Select α :=
  Select.ofRead (do read (← (← args.find? name).filter fun | .null => false | _ => true))

def optional (args : Args) (read : Json → Option α) (name : String) : Select (Option α) :=
  Select.ofRead (Json.Fields.optional args read name)

def withDefault (args : Args) (read : Json → Option α) (name : String) (absent : α) : Select α := do
  return (← args.optional read name).getD absent

def limit (args : Args) : Select (Option Int) := args.optional Json.readInt32 "limit"

end Args

/-- A field of rows of one type. -/
abbrev Selection (α : Type) := α → Args → Select Json

namespace Selection

variable {α β ω : Type}

/-- A field that is part of its row. -/
def plain (view : α → Json) : Selection α :=
  fun a _ => pure (view a)

/-- A field without arguments. -/
def simple (write : β → Json) (field : α → Resolve β) : Selection α :=
  fun a _ => do return write (← Select.ofField (field a))

def limited (write : β → Json) (field : α → Option Int → Resolve β) : Selection α :=
  fun a args => do
    let limit ← args.limit
    return write (← Select.ofField (field a limit))

def filtered (write : β → Json) (read : Json → Option ω)
    (field : α → Option Int → Option ω → Resolve β) : Selection α :=
  fun a args => do
    let limit ← args.limit
    let filter ← args.optional read "where"
    return write (← Select.ofField (field a limit filter))

def alerts (field : α → Option Bool → Option Int → Resolve (List Alert)) : Selection α :=
  fun a args => do
    let active ← args.optional Json.readBool "active"
    let limit ← args.limit
    return .ofList Alert.toJson (← Select.ofField (field a active limit))

end Selection

end Transit
