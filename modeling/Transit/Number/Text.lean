import Transit.Number.Integer
import Transit.Number.Binary
set_option autoImplicit false

/-!
Floating point numbers as decimal text: with a fixed number of places, with a fixed number of
significant digits and a power of ten, and the shortest text that reads back as the same number.
All are computed from the exact value.
-/

namespace Transit.Number

/-- Fixed point with `places` digits after the point, a half to the even digit. A result that is
zero carries no minus sign. -/
def fixedFinite (places : Nat) (b : Binary) : String :=
  let (num, den) := b.fraction
  let scaled := roundDiv (num * Nat.pow 10 places) den
  let whole := toString (scaled / Nat.pow 10 places)
  let part := if places == 0 then "" else "." ++ padded places (scaled % Nat.pow 10 places)
  (if b.negative && scaled != 0 then "-" else "") ++ whole ++ part

def fixed (places : Nat) (x : Float) : String :=
  match decode x with
  | .nan => "NaN"
  | .infinite negative => if negative then "-inf" else "inf"
  | .finite b => fixedFinite places b

/-- The power of ten of the first significant digit of `num / den`: the greatest `e` with
`10^e ≤ num / den`. The estimate from the lengths is off by at most one. -/
def decimalExponent (num den : Nat) : Int :=
  let e : Int := (toString num).length - (toString den).length
  if den * Nat.pow 10 e.toNat ≤ num * Nat.pow 10 (-e).toNat then e else e - 1

/-- `num / den` in units of `10^unit`, rounded to a whole number, a half to even. -/
def roundToUnit (num den : Nat) (unit : Int) : Nat :=
  roundDiv (num * Nat.pow 10 (-unit).toNat) (den * Nat.pow 10 unit.toNat)

/-- One digit, a point, `places` digits, `e` and the power of ten; zero is `0`. -/
def scientificFinite (places : Nat) (b : Binary) : String :=
  if b.significand == 0 then "0"
  else
    let (num, den) := b.fraction
    let e := decimalExponent num den
    let digits := roundToUnit num den (e - places)
    let (digits, e) :=
      if digits == Nat.pow 10 (places + 1) then (Nat.pow 10 places, e + 1) else (digits, e)
    let text := toString digits
    (if b.negative then "-" else "") ++ String.ofList (text.toList.take 1) ++ "."
      ++ String.ofList (text.toList.drop 1) ++ "e" ++ toString e

def scientific (places : Nat) (x : Float) : String :=
  match decode x with
  | .nan => "NaN"
  | .infinite negative => if negative then "-inf" else "inf"
  | .finite b => scientificFinite places b

/-- The numbers from `low * 2^unit` to `high * 2^unit`, the ends included if it is closed. -/
structure Interval where
  low : Nat
  high : Nat
  unit : Int
  closed : Bool
  deriving DecidableEq, Repr

/-- The numbers that round to a value: the interval reaches halfway to both neighbours, its ends
included when the significand is even; below a power of two the lower neighbour is half as far. -/
def Binary.interval (f : Format) (b : Binary) : Interval :=
  let atPower := b.significand == Nat.pow 2 f.fraction
    && (f.decode 1 != .finite ⟨false, 1, b.exponent⟩)
  { low := 4 * b.significand - (if atPower then 1 else 2)
    high := 4 * b.significand + 2
    unit := b.exponent - 2
    closed := b.significand % 2 == 0 }

/-- Whether `digits * 10^power` lies in an interval. -/
def Interval.contains (i : Interval) (digits : Nat) (power : Int) : Bool :=
  let number := digits * Nat.pow 10 power.toNat * Nat.pow 2 (-i.unit).toNat
  let scale := Nat.pow 2 i.unit.toNat * Nat.pow 10 (-power).toNat
  if i.closed then i.low * scale ≤ number && number ≤ i.high * scale
  else i.low * scale < number && number < i.high * scale

/-- A decimal in the interval with `count` more digits than one, next to `num / den`. -/
def Interval.decimal? (i : Interval) (num den count : Nat) : Option (Nat × Int) :=
  let power := decimalExponent num den - count
  let near := roundToUnit num den power
  ([near, near + 1, near - 1].find? (i.contains · power)).map (·, power)

/-- The shortest decimal `digits * 10^power` that rounds to the value, and of those the nearest to
it. -/
def shortestDigits (f : Format) (b : Binary) : Nat × Int :=
  if b.significand == 0 then (0, 0)
  else
    let (num, den) := b.fraction
    ((List.range 18).findSome? ((b.interval f).decimal? num den)).getD (0, 0)

/-- The double that is nearest to `digits * 10^power`. -/
def ofDecimal (negative : Bool) (digits : Nat) (power : Int) : Float :=
  let size : Int := (toString digits).length + power
  let x : Float :=
    if digits == 0 || size < -400 then 0.0
    else if 400 < size then 1.0 / 0.0
    else Float.ofScientific digits (power < 0) power.natAbs
  if negative then -x else x

/-- The double that the shortest text of a single-precision number reads as. -/
def widenByText (x : Float32) : Float :=
  match decodeSingle x with
  | .finite b =>
    let (digits, power) := shortestDigits .single b
    ofDecimal b.negative digits power
  | _ => x.toFloat

/-- Split at the first exponent letter. -/
def splitExponent (cs : List Char) : List Char × Option (List Char) :=
  (cs.takeWhile fun c => c != 'e' && c != 'E',
   match cs.dropWhile fun c => c != 'e' && c != 'E' with
   | [] => none
   | _ :: rest => some rest)

/-- Nothing, or the digits after a point. -/
def fraction? : List Char → Option (List Char)
  | [] => some []
  | '.' :: ds => if ds.all isDigit then some ds else none
  | _ => none

/-- Digits with an optional sign. -/
def exponent? : List Char → Option Int
  | '+' :: ds => (natOfChars? ds).map Int.ofNat
  | '-' :: ds => (natOfChars? ds).map fun n : Nat => -(n : Int)
  | ds => (natOfChars? ds).map Int.ofNat

/-- An unsigned decimal `digits * 10^power` in text: digits with at most one point, at least one
digit, and an optional power of ten. -/
def decimal? (cs : List Char) : Option (Nat × Int) :=
  let (mantissa, exponent) := splitExponent cs
  let whole := mantissa.takeWhile isDigit
  match fraction? (mantissa.drop whole.length), (exponent.map exponent?).getD (some 0) with
  | some part, some power =>
    if whole.isEmpty && part.isEmpty then none
    else some (ofDigits (whole ++ part), power - part.length)
  | _, _ => none

def unsignedFloat? (negative : Bool) (cs : List Char) : Option Float :=
  (decimal? cs).map fun (digits, power) => ofDecimal negative digits power

/-- `digits * 10^power` in text, always with a point or a power of ten. The point stands at its
place from 0.00001 on and up to sixteen digits before it; else one digit stands before it. -/
def decimalText (digits : Nat) (power : Int) : List Char :=
  let ds := digits.repr.toList
  let point : Int := ds.length + power
  if 0 ≤ power && point ≤ 16 then ds ++ List.replicate power.toNat '0' ++ ['.', '0']
  else if 0 < point && point ≤ 16 then ds.take point.toNat ++ '.' :: ds.drop point.toNat
  else if -5 < point && point ≤ 0 then
    '0' :: '.' :: List.replicate (-point).toNat '0' ++ ds
  else
    let part := if ds.length == 1 then [] else '.' :: ds.drop 1
    ds.take 1 ++ part ++ 'e' :: (toString (point - 1)).toList

/-- The shortest text of a finite number. -/
def shortestText (f : Format) (b : Binary) : List Char :=
  let (digits, power) := shortestDigits f b
  (if b.negative then ['-'] else []) ++ decimalText digits power

/-- A floating point number in text: an optional sign, then `inf`, `infinity` or `nan` in any
letter case, or a decimal. -/
def floatOfText? (s : String) : Option Float :=
  let (negative, cs) : Bool × List Char := match s.toList with
    | '+' :: cs => (false, cs)
    | '-' :: cs => (true, cs)
    | cs => (false, cs)
  let word := cs.map Char.toLower
  if word == "inf".toList || word == "infinity".toList then
    some (if negative then -1.0 / 0.0 else 1.0 / 0.0)
  else if word == "nan".toList then some (0.0 / 0.0)
  else unsignedFloat? negative cs

end Transit.Number
