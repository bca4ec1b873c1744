import Transit.Text.Utf8
set_option autoImplicit false

/-!
The protocol buffer wire format, read under a schema: a message is a list of numbered fields, each
a number, a fixed-width word, a text or a message. Fields that the schema does not name are passed
over. Several occurrences of one message field mean the message with all their fields in order.
-/

namespace Transit.Realtime

abbrev Bytes := List UInt8

namespace Wire

/-- What a field of a known number holds. -/
inductive Shape
  | number
  | word32
  | word64
  | text
  | message (fields : List (Nat × Shape))
  deriving Inhabited

inductive Value
  | number (n : Nat)
  | word32 (n : Nat)
  | word64 (n : Nat)
  | text (s : String)
  | message (fields : List (Nat × Value))
  deriving Inhabited

/-- How a field's bytes are delimited. -/
inductive WireType
  | varint
  | fixed64
  | delimited
  | startGroup
  | endGroup
  | fixed32
  deriving DecidableEq, Repr

def WireType.ofNat? : Nat → Option WireType
  | 0 => some .varint
  | 1 => some .fixed64
  | 2 => some .delimited
  | 3 => some .startGroup
  | 4 => some .endGroup
  | 5 => some .fixed32
  | _ => none

/-- The wire type of a shape. -/
def Shape.wireType : Shape → WireType
  | .number => .varint
  | .word32 => .fixed32
  | .word64 => .fixed64
  | .text => .delimited
  | .message _ => .delimited

/-- A number in groups of seven bits, least first, of at most 64 bits in at most ten bytes. `place`
counts the bytes before. -/
def varint? (place : Nat) : Bytes → Option (Nat × Bytes)
  | [] => none
  | b :: rest =>
    let low := b.toNat % 128
    if place == 9 && 1 < b.toNat then none
    else if b.toNat < 128 then some (low, rest)
    else (varint? (place + 1) rest).map fun (n, rest) => (low + 128 * n, rest)

/-- The number and wire type of the next field. -/
def key? (bytes : Bytes) : Option (Nat × WireType × Bytes) := do
  let (key, rest) ← varint? 0 bytes
  if Nat.pow 2 32 ≤ key || key / 8 == 0 then none
  let wireType ← WireType.ofNat? (key % 8)
  some (key / 8, wireType, rest)

/-- The first `n` bytes and the others. -/
def take? (n : Nat) (bytes : Bytes) : Option (Bytes × Bytes) :=
  let front := bytes.take n
  if front.length == n then some (front, bytes.drop n) else none

/-- The bytes of a field that states its length. -/
def delimited? (bytes : Bytes) : Option (Bytes × Bytes) := do
  let (n, rest) ← varint? 0 bytes
  take? n rest

/-- A little-endian word. -/
def word (bytes : Bytes) : Nat :=
  bytes.foldr (fun b n => b.toNat + 256 * n) 0

/-- The deepest nesting of messages and groups. -/
def maxDepth : Nat := 100

mutual

/-- What follows a field that is passed over. -/
def skip? (fuel depth number : Nat) (wireType : WireType) (bytes : Bytes) : Option Bytes :=
  match fuel, depth with
  | 0, _ => none
  | _, 0 => none
  | fuel + 1, depth + 1 =>
    match wireType with
    | .varint => (varint? 0 bytes).map (·.2)
    | .fixed32 => (take? 4 bytes).map (·.2)
    | .fixed64 => (take? 8 bytes).map (·.2)
    | .delimited => (delimited? bytes).map (·.2)
    | .startGroup => skipGroup? fuel depth number bytes
    | .endGroup => none

/-- What follows the end of a group. -/
def skipGroup? (fuel depth number : Nat) (bytes : Bytes) : Option Bytes :=
  match fuel with
  | 0 => none
  | fuel + 1 => do
    let (inner, wireType, rest) ← key? bytes
    if wireType == .endGroup then
      if inner == number then some rest else none
    else
      skipGroup? fuel depth number (← skip? fuel depth inner wireType rest)

end

/-- The fields of a message. Every field takes at least one byte, so the number of bytes bounds the
recursion. -/
def fields? (fuel depth : Nat) (schema : List (Nat × Shape)) (bytes : Bytes) :
    Option (List (Nat × Value)) :=
  match fuel, depth, bytes with
  | _, _, [] => some []
  | 0, _, _ => none
  | _, 0, _ => none
  | fuel + 1, depth + 1, bytes => do
    let (number, wireType, rest) ← key? bytes
    match schema.lookup number with
    | none => fields? fuel (depth + 1) schema (← skip? bytes.length (depth + 1) number wireType rest)
    | some shape =>
      if wireType ≠ shape.wireType then none
      let (value, rest) ← match shape with
        | .number => (varint? 0 rest).map fun (n, rest) => (Value.number n, rest)
        | .word32 => (take? 4 rest).map fun (w, rest) => (Value.word32 (word w), rest)
        | .word64 => (take? 8 rest).map fun (w, rest) => (Value.word64 (word w), rest)
        | .text => do
          let (text, rest) ← delimited? rest
          some (Value.text (← Text.Utf8.decode? text), rest)
        | .message inner => do
          let (body, rest) ← delimited? rest
          some (Value.message (← fields? fuel depth inner body), rest)
      ((number, value) :: ·) <$> fields? fuel (depth + 1) schema rest

/-- A whole message. -/
def decode? (schema : List (Nat × Shape)) (bytes : Bytes) : Option (List (Nat × Value)) :=
  fields? (bytes.length + 1) maxDepth schema bytes

/-- A decoded message, asked for its fields by number. -/
structure Fields where
  list : List (Nat × Value)

namespace Fields

/-- The values of a field, in order. -/
def all (f : Fields) (number : Nat) : List Value :=
  (f.list.filter (·.1 == number)).map (·.2)

def number? (f : Fields) (number : Nat) : Option Nat :=
  (f.all number).getLast?.bind fun
    | .number n => some n
    | _ => none

def text? (f : Fields) (number : Nat) : Option String :=
  (f.all number).getLast?.bind fun
    | .text s => some s
    | _ => none

def word32? (f : Fields) (number : Nat) : Option Nat :=
  (f.all number).getLast?.bind fun
    | .word32 n => some n
    | _ => none

/-- The messages of a field that may occur many times. -/
def messages (f : Fields) (number : Nat) : List Fields :=
  (f.all number).filterMap fun
    | .message inner => some ⟨inner⟩
    | _ => none

/-- The message of a field that occurs once: all occurrences taken together. -/
def message? (f : Fields) (number : Nat) : Option Fields :=
  match f.messages number with
  | [] => none
  | parts => some ⟨parts.flatMap (·.list)⟩

end Fields

end Wire

end Transit.Realtime
