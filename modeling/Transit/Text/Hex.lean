import Transit.Json.Fields
import Transit.Json.Parser
set_option autoImplicit false

/-!
Bytes as hexadecimal digits, two for each.
-/

namespace Transit.Hex

def byteOf (high low : Nat) : UInt8 := UInt8.ofNat (16 * high + low)

def read? : List Char → Option (List UInt8)
  | [] => some []
  | [_] => none
  | a :: b :: rest => do
    some (byteOf (← Json.hexDigit? a) (← Json.hexDigit? b) :: (← read? rest))

def ofJson? (j : Json) : Option (List UInt8) := do
  read? (← Json.readText j).toList

end Transit.Hex
