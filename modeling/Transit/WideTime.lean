import Transit.Text.Search
import Transit.Civil.Zone
set_option autoImplicit false

/-!
Times of a service day, counted in seconds from its midnight. A service day runs on past 24:00:00,
so hours may exceed 23.
-/

namespace Transit

/-- Seconds since the midnight of a service day. -/
structure WideTime where
  seconds : Nat := 0
  deriving DecidableEq, Repr, Inhabited

/-- Why a time is refused. -/
inductive TimeError
  | negative
  | format
  | hourDigits
  | minuteDigits
  | secondDigits
  | minuteRange
  | secondRange
  deriving DecidableEq, Repr

def TimeError.reason : TimeError → String
  | .negative => "seconds must not be negative"
  | .format => "expected HH:MM:SS format"
  | .hourDigits => "invalid hour digits"
  | .minuteDigits => "invalid minute digits"
  | .secondDigits => "invalid second digits"
  | .minuteRange => "minute must be 0-59"
  | .secondRange => "second must be 0-59"

def TimeError.message (e : TimeError) : String :=
  "invalid time: " ++ e.reason

namespace WideTime

/-- The end of the longest service day that a query looks at: one hundred hours. -/
def maxQuery : Int := 360000

def ofSeconds (n : Int) : Except TimeError WideTime :=
  if n < 0 then .error .negative else .ok ⟨n.toNat⟩

/-- Between `least` and `most` ASCII digits, as a number. -/
def digits? (least most : Nat) (cs : List Char) : Option Nat :=
  if least ≤ cs.length && cs.length ≤ most then Number.natOfChars? cs else none

/-- `H:MM:SS` with one to three digits for the hour. -/
def parse (s : String) : Except TimeError WideTime :=
  match Text.splitChars ':' s.toList with
  | [h, m, s] => do
    let some h := digits? 1 3 h | .error .hourDigits
    let some m := digits? 2 2 m | .error .minuteDigits
    let some s := digits? 2 2 s | .error .secondDigits
    if 59 < m then .error .minuteRange
    else if 59 < s then .error .secondRange
    else .ok ⟨3600 * h + 60 * m + s⟩
  | _ => .error .format

def hours (t : WideTime) : Nat := t.seconds / 3600
def minutes (t : WideTime) : Nat := t.seconds / 60 % 60
def secondsOfMinute (t : WideTime) : Nat := t.seconds % 60

/-- Two digits each, more for hours from 100 on. -/
def toText (t : WideTime) : String :=
  Number.twoDigits t.hours ++ ":" ++ Number.twoDigits t.minutes ++ ":"
    ++ Number.twoDigits t.secondsOfMinute

/-- At or after 24:00:00. -/
def isAfterMidnight (t : WideTime) : Bool :=
  86400 ≤ t.seconds

/-- The time some seconds later, or earlier, unless it is negative or beyond 32 bits. -/
def addSeconds? (t : WideTime) (n : Int) : Option WideTime :=
  let sum : Int := t.seconds + n
  if 0 ≤ sum && Number.Range.int32.holds sum then some ⟨sum.toNat⟩ else none

/-- The moment of this time on a service date of a zone. The calendar ends there too: the program
does not get past a moment beyond it. -/
def onServiceDate? (t : WideTime) (d : Date) (z : Zone) : Option LocalInstant := do
  let midnight ← z.serviceMidnight? d
  let moment ← midnight.instant.later? t.seconds
  return z.localize moment

/-- The time at which a moment falls on a service date, or its local time of day when the date is
not known or has no midnight. -/
def ofInstant? (at' : Instant) (serviceDate : Option Date) (z : Zone) : Option WideTime :=
  match serviceDate.bind z.serviceMidnight? with
  | some midnight =>
    let n := at'.seconds - midnight.instant.seconds
    if 0 ≤ n && Number.Range.int32.holds n then some ⟨n.toNat⟩ else none
  | none => some ⟨(z.localNow at').2⟩

end WideTime

end Transit
