import Transit.Civil.Date
set_option autoImplicit false

/-!
Moments in time: seconds since 1970-01-01T00:00:00Z with a fraction in nanoseconds, their text, and
moments together with the distance of a local clock from UTC.
-/

namespace Transit

def secondsPerDay : Int := 86400

/-- A moment. A fraction of a whole second or more belongs to a leap second. -/
structure Instant where
  seconds : Int := 0
  nanos : Nat := 0
  deriving DecidableEq, Repr, Inhabited

/-- A moment as a local clock shows it: the clock is `offset` seconds ahead of UTC. -/
structure LocalInstant where
  instant : Instant
  offset : Int
  deriving DecidableEq, Repr, Inhabited

namespace Instant

instance : LT Instant := ⟨fun a b => a.seconds < b.seconds ∨ (a.seconds = b.seconds ∧ a.nanos < b.nanos)⟩
instance (a b : Instant) : Decidable (a < b) :=
  inferInstanceAs (Decidable (a.seconds < b.seconds ∨ (a.seconds = b.seconds ∧ a.nanos < b.nanos)))

/-- The moment of a Unix time, if its date lies within the calendar. -/
def ofUnix? (seconds : Int) : Option Instant :=
  if Date.span.holds (seconds / secondsPerDay) then some ⟨seconds, 0⟩ else none

/-- The seconds of the moments whose dates lie within the calendar. -/
def span : Number.Range :=
  ⟨Date.span.lo * secondsPerDay, Date.span.hi * secondsPerDay + (secondsPerDay - 1)⟩

/-- The moment some seconds later, the calendar left out of account. -/
def later (t : Instant) (seconds : Int) : Instant :=
  { t with seconds := t.seconds + seconds }

/-- The moment some seconds later, if its date lies within the calendar. -/
def later? (t : Instant) (seconds : Int) : Option Instant :=
  if span.holds (t.seconds + seconds) then some (t.later seconds) else none

/-- The UTC date. -/
def date (t : Instant) : Date := ⟨t.seconds / secondsPerDay⟩

/-- The fraction with three, six or nine digits, as few as it takes; nothing for a whole second. -/
def fractionText (nanos : Nat) : String :=
  let n := nanos % 1000000000
  if n == 0 then ""
  else if n % 1000000 == 0 then "." ++ Number.padded 3 (n / 1000000)
  else if n % 1000 == 0 then "." ++ Number.padded 6 (n / 1000)
  else "." ++ Number.padded 9 n

/-- Date and time of day of the moment on a clock `offset` seconds ahead of UTC. -/
def clockText (t : Instant) (offset : Int) : String :=
  let at' := t.seconds + offset
  let day : Date := ⟨at' / secondsPerDay⟩
  let s := (at' % secondsPerDay).toNat
  let leap := t.nanos / 1000000000
  day.toText ++ "T" ++ Number.twoDigits (s / 3600) ++ ":" ++ Number.twoDigits (s / 60 % 60) ++ ":"
    ++ Number.twoDigits (s % 60 + leap) ++ fractionText t.nanos

def toText (t : Instant) : String :=
  t.clockText 0 ++ "Z"

/-- The first nine digits of a fraction, as nanoseconds. -/
def nanosOfDigits (ds : List Char) : Nat :=
  let kept := ds.take 9
  Number.ofDigits kept * Nat.pow 10 (9 - kept.length)

/-- Blanks, then one or two digits, no greater than a bound. -/
def takeUpTo? (bound : Nat) (cs : List Char) : Option (Nat × List Char) :=
  (Date.takeNumber? 2 (Text.dropBlank cs)).filter (·.1 ≤ bound)

/-- Two digits no greater than a bound. -/
def takeTwo? (bound : Nat) : List Char → Option (Nat × List Char)
  | a :: b :: rest =>
    if Number.isDigit a && Number.isDigit b && Number.ofDigits [a, b] ≤ bound then
      some (Number.ofDigits [a, b], rest)
    else none
  | _ => none

/-- The sign of a distance from UTC; the minus sign of Unicode counts as a hyphen. -/
def signOf? (c : Char) : Option Int :=
  if c == '+' then some 1 else if c == '-' || c == '\u2212' then some (-1) else none

/-- The distance from UTC at the front of a text: `UTC` or `Z` in either letter case, or a sign and
two digits each for hours and minutes, colons and blanks between them left out of account. -/
def offset? (cs : List Char) : Option (Int × List Char) :=
  if (cs.take 3).map Char.toUpper == ['U', 'T', 'C'] then some (0, cs.drop 3)
  else
    match cs with
    | [] => none
    | c :: rest =>
      if c.toUpper == 'Z' then some (0, rest)
      else do
        let factor ← signOf? c
        let (hours, rest) ← takeTwo? 23 rest
        let (minutes, rest) ← takeTwo? 59 (rest.dropWhile fun c => c == ':' || Text.isBlank c)
        some (factor * (3600 * hours + 60 * minutes : Nat), rest)

/-- A fraction of a second, if there is one: a point and at least one digit. -/
def fraction? (cs : List Char) : Option (Nat × List Char) :=
  match cs with
  | '.' :: cs =>
    let ds := cs.takeWhile Number.isDigit
    if ds.isEmpty then none else some (nanosOfDigits ds, cs.drop ds.length)
  | cs => some (0, cs)

/-- A moment in text: date, `T` or a space, time of day with an optional fraction, and the distance
from UTC. Second 60 is a leap second. -/
def ofText? (s : String) : Option Instant := do
  let (day, cs) ← Date.take? false s.toList
  let mark :: cs := cs | none
  if mark != 'T' && mark != 't' && mark != ' ' then none
  let (hours, cs) ← takeUpTo? 23 cs
  let ':' :: cs := cs | none
  let (minutes, cs) ← takeUpTo? 59 cs
  let ':' :: cs := cs | none
  let (seconds, cs) ← takeUpTo? 60 cs
  let (nanos, cs) ← fraction? cs
  let (offset, cs) ← offset? (Text.dropBlank cs)
  if !cs.all Text.isBlank then none
  let (seconds, nanos) := if seconds == 60 then (59, nanos + 1000000000) else (seconds, nanos)
  some ⟨day.day * secondsPerDay + (3600 * hours + 60 * minutes + seconds : Nat) - offset, nanos⟩

end Instant

namespace LocalInstant

/-- The distance from UTC: a sign, hours and minutes. No distance is a `Z`. -/
def offsetText (offset : Int) : String :=
  let n := offset.natAbs
  if n == 0 then "Z"
  else (if offset < 0 then "-" else "+") ++ Number.twoDigits (n / 3600) ++ ":"
    ++ Number.twoDigits (n / 60 % 60)

def toText (t : LocalInstant) : String :=
  t.instant.clockText t.offset ++ offsetText t.offset

end LocalInstant

end Transit
