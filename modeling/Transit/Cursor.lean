import Transit.Text.Base64
import Transit.Text.Utf8
import Transit.Text.Search
import Transit.Number.Integer
set_option autoImplicit false

/-!
Cursors: the position in a listing after which the next page begins, as an opaque text. The text
is the base64 form of the feed version id and the row id with a comma between.
-/

namespace Transit

/-- The position after a row. Rows that belong to no feed version have feed version 0. -/
structure Cursor where
  feedVersionId : Int := 0
  id : Int := 0
  deriving DecidableEq, Repr, Inhabited

inductive CursorError
  | notBase64
  | notUtf8
  | notPair
  | feedVersionNotInteger
  | idNotInteger
  | negative
  | outOfRange
  deriving DecidableEq, Repr

def CursorError.reason : CursorError → String
  | .notBase64 => "not base64"
  | .notUtf8 => "not utf-8"
  | .notPair => "expected two comma separated values"
  | .feedVersionNotInteger => "feed version id is not an integer"
  | .idNotInteger => "id is not an integer"
  | .negative => "values must not be negative"
  | .outOfRange => "value out of range"

def CursorError.message (e : CursorError) : String :=
  "invalid cursor: " ++ e.reason

namespace Cursor

/-- The greatest value in a cursor, two to the 53rd. -/
def maxValue : Int := 9007199254740992

def encode (c : Cursor) : String :=
  let text := toString c.feedVersionId ++ "," ++ toString c.id
  String.ofList (Text.Base64.encode (Text.Utf8.encode text))

/-- The texts before and after the first comma. -/
def splitPair? (cs : List Char) : Option (List Char × List Char) :=
  match cs.dropWhile (· != ',') with
  | [] => none
  | _ :: rest => some (cs.takeWhile (· != ','), rest)

/-- Read a cursor; white space around it does not count. -/
def decode (s : String) : Except CursorError Cursor := do
  let some bytes := Text.Base64.decode? (Text.trimChars s.toList) | .error .notBase64
  let some chars := Text.Utf8.decodeChars? bytes | .error .notUtf8
  let some (a, b) := splitPair? chars | .error .notPair
  let some feedVersionId := Number.intOfChars? .int64 a | .error .feedVersionNotInteger
  let some id := Number.intOfChars? .int64 b | .error .idNotInteger
  if feedVersionId < 0 || id < 0 then .error .negative
  else if maxValue < feedVersionId || maxValue < id then .error .outOfRange
  else .ok ⟨feedVersionId, id⟩

/-- A row comes after the cursor: by id alone when the cursor has no feed version, else by feed
version and then by id. -/
def admits (c : Cursor) (feedVersionId id : Int) : Bool :=
  if c.feedVersionId == 0 then c.id < id
  else c.feedVersionId < feedVersionId || (c.feedVersionId == feedVersionId && c.id < id)

end Cursor

end Transit
