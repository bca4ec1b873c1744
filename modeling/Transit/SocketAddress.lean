import Transit.Number.Integer
set_option autoImplicit false

/-!
Socket addresses: an IPv4 or IPv6 address and, after a colon, a number, read from text and written
in the shortest form. Readers take as much of the text as they can use and return the rest.
-/

namespace Transit

/-- `groups` has the eight 16-bit parts of an IPv6 address. -/
inductive SocketAddress
  | v4 (octets : List Nat) (portNumber : Nat)
  | v6 (groups : List Nat) (scope portNumber : Nat)
  deriving DecidableEq, Repr

namespace SocketAddress

def digitValue? (radix : Nat) (c : Char) : Option Nat :=
  let value : Option Nat :=
    if '0' ≤ c && c ≤ '9' then some (c.toNat - '0'.toNat)
    else if 'a' ≤ c && c ≤ 'f' then some (c.toNat - 'a'.toNat + 10)
    else if 'A' ≤ c && c ≤ 'F' then some (c.toNat - 'A'.toNat + 10)
    else none
  value.filter (· < radix)

/-- A number of at least one digit and no more than `maxDigits` (any number if that is 0), up to
`maxValue`; `padded` admits zeros in front. -/
def number? (radix maxDigits maxValue : Nat) (padded : Bool) (cs : List Char) :
    Option (Nat × List Char) :=
  let ds := cs.takeWhile fun c => (digitValue? radix c).isSome
  let n := ds.foldl (fun n c => radix * n + (digitValue? radix c).getD 0) 0
  if ds.isEmpty || (maxDigits != 0 && maxDigits < ds.length) || maxValue < n
      || (!padded && 1 < ds.length && ds.head? == some '0') then none
  else some (n, cs.drop ds.length)

def char? (c : Char) : List Char → Option (List Char)
  | d :: rest => if c == d then some rest else none
  | [] => none

def octet? : List Char → Option (Nat × List Char) := number? 10 3 255 false

def ipv4? (cs : List Char) : Option (List Nat × List Char) := do
  let (a, cs) ← octet? cs
  let (b, cs) ← octet? (← char? '.' cs)
  let (c, cs) ← octet? (← char? '.' cs)
  let (d, cs) ← octet? (← char? '.' cs)
  some ([a, b, c, d], cs)

def portNumber? (cs : List Char) : Option (Nat × List Char) := do
  number? 10 0 65535 true (← char? ':' cs)

/-- Up to `limit` groups with colons between them, the last two possibly in IPv4 form: the groups,
whether they end in IPv4 form, and the rest. -/
def groups (first : Bool) : Nat → List Char → List Nat × Bool × List Char
  | 0, cs => ([], false, cs)
  | limit + 1, cs =>
    let after : Option (List Char) := if first then some cs else char? ':' cs
    let embedded := if limit == 0 then none else after.bind ipv4?
    match embedded with
    | some ([a, b, c, d], rest) => ([256 * a + b, 256 * c + d], true, rest)
    | _ =>
      match after.bind (number? 16 4 65535 true) with
      | some (g, rest) =>
        let (gs, ends, rest) := groups false limit rest
        (g :: gs, ends, rest)
      | none => ([], false, cs)

def ipv6? (cs : List Char) : Option (List Nat × List Char) := do
  let (head, ends, cs) := groups true 8 cs
  if head.length == 8 then some (head, cs)
  else if ends then none
  else
    let cs ← char? ':' (← char? ':' cs)
    let (tail, _, cs) := groups true (7 - head.length) cs
    some (head ++ List.replicate (8 - head.length - tail.length) 0 ++ tail, cs)

def ofV4Chars? (cs : List Char) : Option SocketAddress := do
  let (octets, cs) ← ipv4? cs
  let (portNumber, cs) ← portNumber? cs
  if cs.isEmpty then some (.v4 octets portNumber) else none

def ofV6Chars? (cs : List Char) : Option SocketAddress := do
  let (groups, cs) ← ipv6? (← char? '[' cs)
  let (scope, cs) ← match char? '%' cs with
    | some rest => number? 10 0 4294967295 true rest
    | none => some (0, cs)
  let (portNumber, cs) ← portNumber? (← char? ']' cs)
  if cs.isEmpty then some (.v6 groups scope portNumber) else none

def ofText? (s : String) : Option SocketAddress :=
  (ofV4Chars? s.toList).or (ofV6Chars? s.toList)

def octetsText (octets : List Nat) : String :=
  ".".intercalate (octets.map toString)

def groupsText (groups : List Nat) : String :=
  ":".intercalate (groups.map fun g => String.ofList (Nat.toDigits 16 g))

/-- Where the first of the longest stretches of zeros begins, and how long it is. -/
def longestZeros (groups : List Nat) : Nat × Nat :=
  (List.range groups.length).foldl (fun (best : Nat × Nat) i =>
    let len := ((groups.drop i).takeWhile (· == 0)).length
    if best.2 < len then (i, len) else best) (0, 0)

/-- Two colons stand for the longest stretch of at least two zeros. -/
def ipv6Text (groups : List Nat) : String :=
  match groups with
  | [0, 0, 0, 0, 0, 65535, a, b] => "::ffff:" ++ octetsText [a / 256, a % 256, b / 256, b % 256]
  | _ =>
    let (start, len) := longestZeros groups
    if 1 < len then groupsText (groups.take start) ++ "::" ++ groupsText (groups.drop (start + len))
    else groupsText groups

def toText : SocketAddress → String
  | .v4 octets portNumber => octetsText octets ++ ":" ++ toString portNumber
  | .v6 groups scope portNumber =>
    "[" ++ ipv6Text groups ++ (if scope == 0 then "" else "%" ++ toString scope) ++ "]:" ++ toString portNumber

end SocketAddress

end Transit
