import Transit.Json.Basic
set_option autoImplicit false

/-!
Reading JSON text. The grammar is the strict one: no comments, no trailing commas, no control
characters or lone surrogates in strings, numbers without leading zeros and within the range of a
double, and nothing but white space around the value. Nesting is bounded.
-/

namespace Transit.Json

/-- A reader takes characters off the front. -/
abbrev Rest := List Char

def skipSpace : Rest → Rest
  | c :: rest => if c == ' ' || c == '\t' || c == '\n' || c == '\r' then skipSpace rest else c :: rest
  | [] => []

def hexDigit? (c : Char) : Option Nat :=
  if '0' ≤ c && c ≤ '9' then some (c.toNat - 48)
  else if 'a' ≤ c && c ≤ 'f' then some (c.toNat - 87)
  else if 'A' ≤ c && c ≤ 'F' then some (c.toNat - 55)
  else none

/-- Four hexadecimal digits. -/
def unit? : Rest → Option (Nat × Rest)
  | a :: b :: c :: d :: rest => do
    let n := 4096 * (← hexDigit? a) + 256 * (← hexDigit? b) + 16 * (← hexDigit? c) + (← hexDigit? d)
    some (n, rest)
  | _ => none

/-- The character of an escape `\u`, whose first unit has been read; a high surrogate needs its low
one after it. -/
def escapedChar? (n : Nat) (rest : Rest) : Option (Char × Rest) :=
  if 0xD800 ≤ n && n < 0xDC00 then
    match rest with
    | '\\' :: 'u' :: rest => do
      let (low, rest) ← unit? rest
      if 0xDC00 ≤ low && low < 0xE000 then
        some (Char.ofNat (0x10000 + (n - 0xD800) * 0x400 + (low - 0xDC00)), rest)
      else none
    | _ => none
  else if 0xDC00 ≤ n && n < 0xE000 then none
  else some (Char.ofNat n, rest)

/-- The characters of a string up to its closing quote, newest first in `seen`. -/
def stringBody? (fuel : Nat) (seen : List Char) (cs : Rest) : Option (String × Rest) :=
  match fuel, cs with
  | 0, _ => none
  | _, [] => none
  | _, '"' :: rest => some (String.ofList seen.reverse, rest)
  | fuel + 1, '\\' :: c :: rest =>
    match c with
    | '"' => stringBody? fuel ('"' :: seen) rest
    | '\\' => stringBody? fuel ('\\' :: seen) rest
    | '/' => stringBody? fuel ('/' :: seen) rest
    | 'b' => stringBody? fuel ('\x08' :: seen) rest
    | 'f' => stringBody? fuel ('\x0c' :: seen) rest
    | 'n' => stringBody? fuel ('\n' :: seen) rest
    | 'r' => stringBody? fuel ('\r' :: seen) rest
    | 't' => stringBody? fuel ('\t' :: seen) rest
    | 'u' => do
      let (n, rest) ← unit? rest
      let (c, rest) ← escapedChar? n rest
      stringBody? fuel (c :: seen) rest
    | _ => none
  | fuel + 1, c :: rest => if c.toNat < 0x20 then none else stringBody? fuel (c :: seen) rest

/-- A whole number when it has no fraction or power of ten and fits 64 bits, else a double; one
that overflows the doubles is refused. -/
def number? (cs : Rest) : Option (Json × Rest) := do
  let (negative, cs) : Bool × Rest := match cs with
    | '-' :: cs => (true, cs)
    | cs => (false, cs)
  let whole := cs.takeWhile Number.isDigit
  if whole.isEmpty || (whole.head? == some '0' && whole.length ≠ 1) then none
  let cs := cs.drop whole.length
  let (part, cs) ← match cs with
    | '.' :: cs =>
      let ds := cs.takeWhile Number.isDigit
      if ds.isEmpty then none else some (ds, cs.drop ds.length)
    | cs => some ([], cs)
  let (power, isWhole, cs) ← match cs with
    | c :: cs =>
      if c == 'e' || c == 'E' then
        let (sign, cs) : Int × Rest := match cs with
          | '+' :: cs => (1, cs)
          | '-' :: cs => (-1, cs)
          | cs => (1, cs)
        let ds := cs.takeWhile Number.isDigit
        if ds.isEmpty then none
        else some (sign * (Number.ofDigits ds : Int), false, cs.drop ds.length)
      else some (0, part.isEmpty, c :: cs)
    | [] => some (0, part.isEmpty, [])
  let n := Number.ofDigits (whole ++ part)
  let fits := if negative then n != 0 && n ≤ Nat.pow 2 63 else n < Nat.pow 2 64
  if isWhole && fits then some (.int (if negative then -(n : Int) else n), cs)
  else
    let x := Number.ofDecimal negative n (power - part.length)
    if x.isInf then none else some (.float x, cs)

mutual

/-- A value, with at most `depth` arrays and objects around another. -/
def value? (fuel depth : Nat) (cs : Rest) : Option (Json × Rest) :=
  match fuel with
  | 0 => none
  | fuel + 1 =>
    match skipSpace cs with
    | 'n' :: 'u' :: 'l' :: 'l' :: rest => some (.null, rest)
    | 't' :: 'r' :: 'u' :: 'e' :: rest => some (.bool true, rest)
    | 'f' :: 'a' :: 'l' :: 's' :: 'e' :: rest => some (.bool false, rest)
    | '"' :: rest => (stringBody? (rest.length + 1) [] rest).map fun (s, rest) => (.str s, rest)
    | '[' :: rest =>
      match depth, skipSpace rest with
      | 0, _ => none
      | _, ']' :: rest => some (.arr [], rest)
      | depth + 1, rest => (items? fuel depth [] rest).map fun (xs, rest) => (.arr xs, rest)
    | '{' :: rest =>
      match depth, skipSpace rest with
      | 0, _ => none
      | _, '}' :: rest => some (.obj [], rest)
      | depth + 1, rest => (members? fuel depth [] rest).map fun (xs, rest) => (.obj xs, rest)
    | rest => number? rest

/-- The items of an array after its bracket, newest first in `seen`. -/
def items? (fuel depth : Nat) (seen : List Json) (cs : Rest) : Option (List Json × Rest) :=
  match fuel with
  | 0 => none
  | fuel + 1 => do
    let (item, rest) ← value? fuel depth cs
    match skipSpace rest with
    | ',' :: rest => items? fuel depth (item :: seen) rest
    | ']' :: rest => some ((item :: seen).reverse, rest)
    | _ => none

/-- The members of an object after its brace, newest first in `seen`. -/
def members? (fuel depth : Nat) (seen : List (String × Json)) (cs : Rest) :
    Option (List (String × Json) × Rest) :=
  match fuel with
  | 0 => none
  | fuel + 1 =>
    match skipSpace cs with
    | '"' :: rest => do
      let (name, rest) ← stringBody? (rest.length + 1) [] rest
      match skipSpace rest with
      | ':' :: rest => do
        let (item, rest) ← value? fuel depth rest
        match skipSpace rest with
        | ',' :: rest => members? fuel depth ((name, item) :: seen) rest
        | '}' :: rest => some (((name, item) :: seen).reverse, rest)
        | _ => none
      | _ => none
    | _ => none

end

/-- The deepest nesting that is read. -/
def maxDepth : Nat := 127

/-- The value that a text holds. A value takes at least one character, so the length bounds every
chain of calls. -/
def parse? (s : String) : Option Json := do
  let cs := s.toList
  let (j, rest) ← value? (2 * cs.length + 2) maxDepth cs
  if (skipSpace rest).isEmpty then some j else none

end Transit.Json
