import Transit.Json.Parser
import Transit.Number.Integer
import Transit.Text.Utf8
set_option autoImplicit false

/-!
The text of requests: percent escapes, and the named values after the question mark.
-/

namespace Transit.Http

/-- The value of a byte that is a hexadecimal digit. -/
def digit? (b : UInt8) : Option Nat := Json.hexDigit? (Char.ofNat b.toNat)

/-- Replace each percent sign that is followed by two hexadecimal digits by the byte they stand
for. Other percent signs stay. -/
def unescape : List UInt8 → List UInt8
  | [] => []
  | [a] => [a]
  | [a, b] => [a, b]
  | a :: b :: c :: rest =>
    if a == 0x25 then
      match digit? b, digit? c with
      | some high, some low => UInt8.ofNat (16 * high + low) :: unescape rest
      | _, _ => a :: unescape (b :: c :: rest)
    else a :: unescape (b :: c :: rest)

/-- A part of a path. It has to be text once its escapes are gone. -/
def segmentText? (s : String) : Option String :=
  Text.Utf8.decode? (unescape (Text.Utf8.encode s))

/-- A name or a value of a query: a plus sign is a space, and what is no text is marked. -/
def formText (cs : List Char) : String :=
  let spaced := cs.map fun c => if c == '+' then ' ' else c
  Text.Utf8.decodeLossy (unescape (Text.Utf8.encode (String.ofList spaced)))

/-- The named values of a query, in order. -/
structure Query where
  pairs : List (String × String) := []
  deriving DecidableEq, Repr, Inhabited

namespace Query

/-- A pair is split at its first equals sign; without one its value is empty. -/
def pairOf (cs : List Char) : String × String :=
  (formText (cs.takeWhile (· != '=')), formText ((cs.dropWhile (· != '=')).drop 1))

/-- Pairs with ampersands between them; empty ones do not count. -/
def ofChars (cs : List Char) : Query :=
  ⟨((cs.splitOn '&').filter (!·.isEmpty)).map pairOf⟩

/-- The value of a name, which may stand in the query once. -/
def optional {α : Type} (q : Query) (read : String → Option α) (name : String) :
    Option (Option α) :=
  match q.pairs.filter (·.1 == name) with
  | [] => some none
  | [(_, value)] => (read value).map some
  | _ => none

def text (q : Query) (name : String) : Option (Option String) :=
  q.optional some name

def int32 (q : Query) (name : String) : Option (Option Int) :=
  q.optional (Number.intOfText? .int32) name

def boolOfText? (s : String) : Option Bool :=
  if s == "true" then some true else if s == "false" then some false else none

def bool (q : Query) (name : String) : Option (Option Bool) :=
  q.optional boolOfText? name

end Query

end Transit.Http
