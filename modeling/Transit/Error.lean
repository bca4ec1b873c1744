import Transit.WideTime
import Transit.Cursor
import Transit.Civil.ZoneTable
set_option autoImplicit false

/-!
What can go wrong: when the data behind the gateway is asked, when a batch of keys is loaded, and
when a field is resolved for a client. Each cause has one wording, in `message`.
-/

namespace Transit

/-- Why the data behind the gateway gave no answer. -/
inductive LookupError
  | notFound (entity id : String)
  | invalidQuery (reason : String)
  | backend (reason : String)
  | unsupported (capability : String)
  | cancelled
  deriving DecidableEq, Repr, Inhabited

def cancelledMessage : String := "request cancelled"

def notFoundMessage (entity id : String) : String :=
  entity ++ " " ++ id ++ " not found"

def LookupError.message : LookupError → String
  | .notFound entity id => notFoundMessage entity id
  | .invalidQuery reason => "invalid query: " ++ reason
  | .backend reason => "backend error: " ++ reason
  | .unsupported capability => "not supported: " ++ capability
  | .cancelled => cancelledMessage

/-- Why a key got no value from a loader. -/
inductive LoadError
  | cancelled
  | failed (cause : LookupError)
  deriving DecidableEq, Repr, Inhabited

def LoadError.message : LoadError → String
  | .cancelled => cancelledMessage
  | .failed cause => cause.message

/-- Why a field has no value. A `collaborator` error names the field whose data was not to be
had. -/
inductive FieldError
  | invalidInput (reason : String)
  | notFound (entity id : String)
  | accessDenied
  | timezoneUnavailable
  | collaborator (field : String) (cause : LookupError)
  | cancelled
  deriving DecidableEq, Repr, Inhabited

namespace FieldError

def message : FieldError → String
  | .invalidInput reason => "invalid input: " ++ reason
  | .notFound entity id => notFoundMessage entity id
  | .accessDenied => "access denied"
  | .timezoneUnavailable => "timezone not available for stop"
  | .collaborator field cause => field ++ ": " ++ cause.message
  | .cancelled => cancelledMessage

/-- A failed look-up on behalf of a field. Cancellation is nobody's fault and stays bare. -/
def ofLookup (field : String) : LookupError → FieldError
  | .cancelled => .cancelled
  | cause => .collaborator field cause

def ofLoad (field : String) : LoadError → FieldError
  | .cancelled => .cancelled
  | .failed cause => ofLookup field cause

end FieldError

/-- Why a value that a client gave is refused. -/
inductive DomainError
  | time (cause : TimeError)
  | cursor (cause : CursorError)
  | unknownTimezone (name : String)
  | unknownRelativeDate (text : String)
  deriving DecidableEq, Repr

def DomainError.message : DomainError → String
  | .time cause => cause.message
  | .cursor cause => cause.message
  | .unknownTimezone name => "unknown timezone: " ++ name
  | .unknownRelativeDate text => "unknown relative date: " ++ text

/-- The zone of a name; white space around it does not count. -/
def Zone.parse (name : String) : Except DomainError Zone :=
  match Zone.find? (Text.trim name) with
  | some z => .ok z
  | none => .error (.unknownTimezone name)

end Transit
