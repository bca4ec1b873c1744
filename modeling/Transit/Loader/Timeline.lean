import Transit.Loader.Clocked
import Transit.Number.Integer
set_option autoImplicit false

/-!
A runtime whose fetcher follows a script: it doubles its keys, and fails where it is told to.
-/

namespace Transit

/-- What happens in a call of the fetcher. -/
structure FetchScript where
  keyErrors : List (Int × LookupError) := []
  failCalls : List Nat := []
  shortCalls : List Nat := []
  longCalls : List Nat := []
  hangCalls : List Nat := []
  deriving Repr, Inhabited

namespace FetchScript

/-- Twice the key, nothing for keys that end in nine, or the error set for the key. -/
def entry (f : FetchScript) (key : Int) : Except LookupError (Option Int) :=
  match f.keyErrors.lookup key with
  | some e => .error e
  | none => .ok (if key.tmod 10 == 9 then none else some (Number.Range.int64.wrap (key * 2)))

/-- The answer of a call; `none` when it never comes. -/
def answer (f : FetchScript) (call : Nat) (keys : List Int) :
    Option (BatchAnswer (Option Int)) :=
  if f.hangCalls.contains call then none
  else if f.failCalls.contains call then some (.error (.backend "down"))
  else
    let entries := keys.map f.entry
    let entries := if f.shortCalls.contains call then entries.dropLast else entries
    some (.ok (if f.longCalls.contains call then entries ++ [.ok (some (-1))] else entries))

end FetchScript

/-- Loads of numbers from a scripted fetcher. -/
abbrev Timeline := Clocked Int (Option Int)

def Timeline.start (capacity wait : Nat) (script : FetchScript) : Timeline :=
  Clocked.start capacity wait script.answer

end Transit
