set_option autoImplicit false

/-!
The exact value of a binary floating point number: a sign, a whole significand and a power of two.
Everything that prints or compares exactly starts from here.
-/

namespace Transit.Number

/-- `(-1)^negative * significand * 2^exponent`. -/
structure Binary where
  negative : Bool
  significand : Nat
  exponent : Int
  deriving DecidableEq, Repr

/-- What the bit pattern of a floating point number stands for. -/
inductive Decoded
  | nan
  | infinite (negative : Bool)
  | finite (value : Binary)
  deriving DecidableEq, Repr

/-- The layout of a binary format: bits of the stored significand and of the exponent. -/
structure Format where
  fraction : Nat
  exponent : Nat
  deriving DecidableEq, Repr

def Format.double : Format := ⟨52, 11⟩
def Format.single : Format := ⟨23, 8⟩

/-- Decode a bit pattern of the format. -/
def Format.decode (f : Format) (bits : Nat) : Decoded :=
  let negative := bits / Nat.pow 2 (f.fraction + f.exponent) % 2 == 1
  let biased := bits / Nat.pow 2 f.fraction % Nat.pow 2 f.exponent
  let stored := bits % Nat.pow 2 f.fraction
  let bias := Nat.pow 2 (f.exponent - 1) - 1
  if biased == Nat.pow 2 f.exponent - 1 then
    if stored == 0 then .infinite negative else .nan
  else if biased == 0 then
    .finite ⟨negative, stored, 1 - (bias : Int) - f.fraction⟩
  else
    .finite ⟨negative, Nat.pow 2 f.fraction + stored, (biased : Int) - bias - f.fraction⟩

def decode (x : Float) : Decoded :=
  Format.double.decode x.toBits.toNat

def decodeSingle (x : Float32) : Decoded :=
  Format.single.decode x.toBits.toNat

/-- The value as a fraction of whole numbers, sign left out. -/
def Binary.fraction (b : Binary) : Nat × Nat :=
  (b.significand * Nat.pow 2 b.exponent.toNat, Nat.pow 2 (-b.exponent).toNat)

/-- The signed whole number of units `2^unit` in the value; exact when `unit` is small enough. -/
def Binary.units (b : Binary) (unit : Int) : Int :=
  let n : Int := (b.significand * Nat.pow 2 (b.exponent - unit).toNat : Nat)
  if b.negative then -n else n

/-- The quotient rounded to the nearest whole number, a half to the even neighbour. -/
def roundDiv (num den : Nat) : Nat :=
  let q := num / den
  let twice := 2 * (num % den)
  if twice < den then q
  else if den < twice then q + 1
  else if q % 2 == 0 then q else q + 1

end Transit.Number
