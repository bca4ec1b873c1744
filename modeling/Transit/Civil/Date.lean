import Transit.Text.Blank
import Transit.Number.Integer
set_option autoImplicit false

/-!
Calendar dates, counted in days from 1970-01-01, with their year, month and day in the proleptic
Gregorian calendar, their weekday, and their text.
-/

namespace Transit

/-- A date, as the number of days since 1970-01-01. -/
structure Date where
  day : Int := 0
  deriving DecidableEq, Repr, Inhabited

/-- A date taken apart. -/
structure YearMonthDay where
  year : Int
  month : Nat
  day : Nat
  deriving DecidableEq, Repr

namespace Date

/-- The number of the day `month`-`day` of a year. Years are taken to begin in March, so that the
leap day is the last day of a year; four centuries have 146097 days. -/
def dayNumber (year : Int) (month day : Nat) : Int :=
  let y := if month ≤ 2 then year - 1 else year
  let era := y / 400
  let yearOfEra := y % 400
  let dayOfYear : Int := (153 * ((month + 9) % 12) + 2) / 5 + day - 1
  era * 146097 + (yearOfEra * 365 + yearOfEra / 4 - yearOfEra / 100 + dayOfYear) - 719468

def isLeapYear (year : Int) : Bool :=
  year % 4 == 0 && (year % 100 != 0 || year % 400 == 0)

def daysInMonth (year : Int) (month : Nat) : Nat :=
  if month == 2 then (if isLeapYear year then 29 else 28)
  else if month == 4 || month == 6 || month == 9 || month == 11 then 30
  else 31

/-- The years that dates may have. -/
def years : Number.Range := ⟨-262143, 262142⟩

/-- The numbers of the first and the last date. -/
def span : Number.Range := ⟨dayNumber (-262143) 1 1, dayNumber 262142 12 31⟩

def ofYearMonthDay? (year : Int) (month day : Nat) : Option Date :=
  if years.holds year && 1 ≤ month && month ≤ 12 && 1 ≤ day && day ≤ daysInMonth year month then
    some ⟨dayNumber year month day⟩
  else none

def toYearMonthDay (d : Date) : YearMonthDay :=
  let z := d.day + 719468
  let era := z / 146097
  let dayOfEra := z % 146097
  let yearOfEra := (dayOfEra - dayOfEra / 1460 + dayOfEra / 36524 - dayOfEra / 146096) / 365
  let dayOfYear := dayOfEra - (365 * yearOfEra + yearOfEra / 4 - yearOfEra / 100)
  let shifted := (5 * dayOfYear + 2) / 153
  let day := dayOfYear - (153 * shifted + 2) / 5 + 1
  let month := if shifted < 10 then shifted + 3 else shifted - 9
  let year := yearOfEra + era * 400 + (if month ≤ 2 then 1 else 0)
  ⟨year, month.toNat, day.toNat⟩

/-- The date `n` days later, unless it lies outside the calendar. -/
def addDays? (d : Date) (n : Int) : Option Date :=
  if span.holds (d.day + n) then some ⟨d.day + n⟩ else none

def next? (d : Date) : Option Date := d.addDays? 1
def previous? (d : Date) : Option Date := d.addDays? (-1)

/-- Days since Monday. -/
def weekday (d : Date) : Nat :=
  ((d.day + 3) % 7).toNat

instance : LT Date := ⟨fun a b => a.day < b.day⟩
instance : LE Date := ⟨fun a b => a.day ≤ b.day⟩
instance (a b : Date) : Decidable (a < b) := inferInstanceAs (Decidable (a.day < b.day))
instance (a b : Date) : Decidable (a ≤ b) := inferInstanceAs (Decidable (a.day ≤ b.day))

def min (a b : Date) : Date := if b < a then b else a
def max (a b : Date) : Date := if a ≤ b then b else a

/-- A year has four digits, or a sign and at least four digits when four are not enough. -/
def yearText (year : Int) : String :=
  if 0 ≤ year && year ≤ 9999 then Number.padded 4 year.toNat
  else (if year < 0 then "-" else "+") ++ Number.padded 4 year.natAbs

def toText (d : Date) : String :=
  let p := d.toYearMonthDay
  yearText p.year ++ "-" ++ Number.twoDigits p.month ++ "-" ++ Number.twoDigits p.day

/-- Up to `limit` digits, at least one, off the front of a text. -/
def takeNumber? (limit : Nat) (cs : List Char) : Option (Nat × List Char) :=
  let ds := (cs.take limit).takeWhile Number.isDigit
  if ds.isEmpty then none else some (Number.ofDigits ds, cs.drop ds.length)

/-- A year: up to four digits, or any number of digits after a sign. -/
def takeYear? (cs : List Char) : Option (Int × List Char) :=
  match cs with
  | '-' :: rest => (takeNumber? rest.length rest).map fun (n, rest) => (-(n : Int), rest)
  | '+' :: rest => (takeNumber? rest.length rest).map fun (n, rest) => ((n : Int), rest)
  | cs => (takeNumber? 4 cs).map fun (n, rest) => ((n : Int), rest)

/-- A date off the front of a text: year, month and day between hyphens, blanks allowed before
each number, and before each hyphen too if `spread` is set. -/
def take? (spread : Bool) (cs : List Char) : Option (Date × List Char) := do
  let gap (cs : List Char) := if spread then Text.dropBlank cs else cs
  let (year, cs) ← takeYear? (Text.dropBlank cs)
  let '-' :: cs := gap cs | none
  let (month, cs) ← takeNumber? 2 (Text.dropBlank cs)
  let '-' :: cs := gap cs | none
  let (day, cs) ← takeNumber? 2 (Text.dropBlank cs)
  some (← ofYearMonthDay? year month day, cs)

def ofText? (s : String) : Option Date := do
  let (d, rest) ← take? true s.toList
  if Text.dropBlank rest == [] then some d else none

/-- The `n`-th given weekday of a month, counted from one; the fifth stands for the last. -/
def nthWeekday (year : Int) (month n weekday : Nat) : Date :=
  let first : Date := ⟨dayNumber year month 1⟩
  let start : Nat := (weekday + 7 - first.weekday) % 7
  let offset := start + 7 * (n - 1)
  ⟨first.day + (if offset < daysInMonth year month then offset else offset - 7 : Nat)⟩

end Date

end Transit
