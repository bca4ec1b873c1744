set_option autoImplicit false

/-!
Decimal integers in text: an optional sign and at least one ASCII digit, held to a range; and the
ranges of the fixed widths that records and requests use.
-/

namespace Transit.Number

/-- An inclusive range of integers. -/
structure Range where
  lo : Int
  hi : Int
  deriving DecidableEq, Repr

namespace Range

def int32 : Range := ⟨-2147483648, 2147483647⟩
def int64 : Range := ⟨-9223372036854775808, 9223372036854775807⟩
def nat32 : Range := ⟨0, 4294967295⟩
def nat64 : Range := ⟨0, 18446744073709551615⟩

def holds (r : Range) (n : Int) : Bool :=
  r.lo ≤ n && n ≤ r.hi

/-- A range without negative values; its texts carry no minus sign either. -/
def isUnsigned (r : Range) : Bool :=
  0 ≤ r.lo

/-- The value that a two's complement word of this range keeps of an integer. -/
def wrap (r : Range) (n : Int) : Int :=
  r.lo + (n - r.lo) % (r.hi - r.lo + 1)

theorem holds_iff {r : Range} {n : Int} : r.holds n = true ↔ r.lo ≤ n ∧ n ≤ r.hi := by
  rw [holds, Bool.and_eq_true, decide_eq_true_eq, decide_eq_true_eq]

theorem wrap_of_holds {r : Range} {n : Int} (inside : r.holds n = true) : r.wrap n = n := by
  obtain ⟨low, high⟩ := holds_iff.mp inside
  unfold wrap
  rw [Int.emod_eq_of_lt (by omega) (by omega)]
  omega

end Range

def isDigit (c : Char) : Bool :=
  '0' ≤ c && c ≤ '9'

def digitValue (c : Char) : Nat :=
  c.toNat - '0'.toNat

/-- The number that a list of digits writes. -/
def ofDigits (cs : List Char) : Nat :=
  cs.foldl (fun n c => 10 * n + digitValue c) 0

/-- A non-empty list of ASCII digits, as a number. -/
def natOfChars? (cs : List Char) : Option Nat :=
  if cs.isEmpty || !cs.all isDigit then none else some (ofDigits cs)

/-- An integer with an optional sign; the minus sign needs a range with negative values. -/
def intOfChars? (r : Range) (cs : List Char) : Option Int :=
  let value : Option Int := match cs with
    | '+' :: ds => (natOfChars? ds).map Int.ofNat
    | '-' :: ds => if r.isUnsigned then none else (natOfChars? ds).map (fun n => -(n : Int))
    | ds => (natOfChars? ds).map Int.ofNat
  value.filter r.holds

def intOfText? (r : Range) (s : String) : Option Int :=
  intOfChars? r s.toList

/-- At least two digits, a zero in front of a single one. -/
def twoDigits (n : Nat) : String :=
  if n < 10 then "0" ++ toString n else toString n

/-- `n` in decimal, zeros in front up to `width` digits. -/
def padded (width n : Nat) : String :=
  let s := toString n
  String.ofList (List.replicate (width - s.length) '0') ++ s

end Transit.Number
