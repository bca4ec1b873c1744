import Transit.Text.Search
import Transit.Civil.Date
set_option autoImplicit false

/-!
Dates named relative to today: today itself, tomorrow, and weekdays.
-/

namespace Transit

/-- `weekday n next` is the first date with this weekday (Monday is 0): today counts unless `next`
is set. -/
inductive RelativeDate
  | today
  | tomorrow
  | weekday (day : Fin 7) (next : Bool)
  deriving DecidableEq, Repr, Inhabited

namespace RelativeDate

def weekdayName (day : Fin 7) : String :=
  #v["MONDAY", "TUESDAY", "WEDNESDAY", "THURSDAY", "FRIDAY", "SATURDAY", "SUNDAY"][day]

/-- The name in upper case with underscores. -/
def name : RelativeDate → String
  | .today => "TODAY"
  | .tomorrow => "TOMORROW"
  | .weekday day next => (if next then "NEXT_" else "") ++ weekdayName day

def all : List RelativeDate :=
  [.today, .tomorrow] ++ (List.finRange 7).map (.weekday · false)
    ++ (List.finRange 7).map (.weekday · true)

def ofName? (s : String) : Option RelativeDate :=
  all.find? (·.name == s)

/-- The name in lower case with hyphens. -/
def kebab (r : RelativeDate) : String :=
  String.ofList (r.name.toList.map fun c => if c == '_' then '-' else c.toLower)

/-- Read a name in either spelling, letter case and surrounding white space disregarded. -/
def parse? (s : String) : Option RelativeDate :=
  ofName? (String.ofList ((Text.trimChars s.toList).map fun c => if c == '-' then '_' else c.toUpper))

/-- The date that is meant on a given day. -/
def resolve (r : RelativeDate) (today : Date) : Date :=
  match r with
  | .today => today
  | .tomorrow => ⟨today.day + 1⟩
  | .weekday day next =>
    let ahead : Nat := (day.val + 7 - today.weekday) % 7
    ⟨today.day + (if next && ahead == 0 then 7 else ahead : Nat)⟩

end RelativeDate

end Transit
