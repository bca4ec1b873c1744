set_option autoImplicit false

/-!
UTF-8: the bytes of a text, and the text that bytes encode. Well formed are shortest forms only, no
surrogates, nothing beyond U+10FFFF. Bytes that are not may be read all the same, with a mark in
place of what is broken.
-/

namespace Transit.Text.Utf8

def encodeChar (c : Char) : List UInt8 :=
  let n := c.toNat
  if n < 0x80 then [UInt8.ofNat n]
  else if n < 0x800 then [UInt8.ofNat (0xC0 + n / 64), UInt8.ofNat (0x80 + n % 64)]
  else if n < 0x10000 then
    [UInt8.ofNat (0xE0 + n / 4096), UInt8.ofNat (0x80 + n / 64 % 64), UInt8.ofNat (0x80 + n % 64)]
  else
    [UInt8.ofNat (0xF0 + n / 262144), UInt8.ofNat (0x80 + n / 4096 % 64),
      UInt8.ofNat (0x80 + n / 64 % 64), UInt8.ofNat (0x80 + n % 64)]

def encode (s : String) : List UInt8 :=
  s.toList.flatMap encodeChar

/-- The six bits of a continuation byte. -/
def continuation? (b : UInt8) : Option Nat :=
  if 0x80 ≤ b.toNat && b.toNat < 0xC0 then some (b.toNat - 0x80) else none

/-- A character that is long enough for its form and is not a surrogate. -/
def char? (least n : Nat) : Option Char :=
  if least ≤ n && n < 0x110000 && !(0xD800 ≤ n && n < 0xE000) then some (Char.ofNat n) else none

def decodeChars? : List UInt8 → Option (List Char)
  | [] => some []
  | a :: rest =>
    let lead := a.toNat
    if lead < 0x80 then (decodeChars? rest).map (Char.ofNat lead :: ·)
    else if lead < 0xC0 then none
    else if lead < 0xE0 then
      match rest with
      | b :: rest => do
        let c ← char? 0x80 (64 * (lead - 0xC0) + (← continuation? b))
        (decodeChars? rest).map (c :: ·)
      | _ => none
    else if lead < 0xF0 then
      match rest with
      | b :: c :: rest => do
        let c ← char? 0x800 (4096 * (lead - 0xE0) + 64 * (← continuation? b) + (← continuation? c))
        (decodeChars? rest).map (c :: ·)
      | _ => none
    else
      match rest with
      | b :: c :: d :: rest => do
        let c ← char? 0x10000
          (262144 * (lead - 0xF0) + 4096 * (← continuation? b) + 64 * (← continuation? c)
            + (← continuation? d))
        (decodeChars? rest).map (c :: ·)
      | _ => none

def decode? (bytes : List UInt8) : Option String :=
  (decodeChars? bytes).map String.ofList

/-- What stands for broken bytes. -/
def replacement : Char := Char.ofNat 0xFFFD

/-- A character of which some bytes have been read: its value so far, how many bytes are missing, and
between which bounds the next of them lies. -/
structure Unfinished where
  value : Nat
  missing : Nat
  low : Nat := 0x80
  high : Nat := 0xBF
  deriving DecidableEq, Repr

/-- What begins with a byte: a character, a part of one, or nothing well formed. -/
def lead (b : Nat) : Char ⊕ Option Unfinished :=
  if b < 0x80 then .inl (Char.ofNat b)
  else if b < 0xC2 then .inr none
  else if b < 0xE0 then .inr (some { value := b - 0xC0, missing := 1 })
  else if b < 0xF0 then .inr (some {
    value := b - 0xE0, missing := 2
    low := if b == 0xE0 then 0xA0 else 0x80
    high := if b == 0xED then 0x9F else 0xBF })
  else if b < 0xF5 then .inr (some {
    value := b - 0xF0, missing := 3
    low := if b == 0xF0 then 0x90 else 0x80
    high := if b == 0xF4 then 0x8F else 0xBF })
  else .inr none

/-- Read bytes after a part of a character. What breaks off gets one replacement, and the byte that
broke it is read anew. -/
def decodeLossyFrom : Option Unfinished → List UInt8 → List Char
  | none, [] => []
  | some _, [] => [replacement]
  | pending, b :: rest =>
    let n := b.toNat
    match pending.filter fun p => p.low ≤ n && n ≤ p.high with
    | some p =>
      let value := 64 * p.value + (n - 0x80)
      if p.missing == 1 then Char.ofNat value :: decodeLossyFrom none rest
      else decodeLossyFrom (some { value, missing := p.missing - 1 }) rest
    | none =>
      let broken := if pending.isSome then [replacement] else []
      broken ++ match lead n with
        | .inl c => c :: decodeLossyFrom none rest
        | .inr (some p) => decodeLossyFrom (some p) rest
        | .inr none => replacement :: decodeLossyFrom none rest

def decodeLossy (bytes : List UInt8) : String :=
  String.ofList (decodeLossyFrom none bytes)

end Transit.Text.Utf8
