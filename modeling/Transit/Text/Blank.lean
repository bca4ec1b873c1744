set_option autoImplicit false

/-!
White space as Unicode defines it (the property `White_Space`), and the removal of leading and
trailing white space from a text.
-/

namespace Transit.Text

/-- A character with the Unicode property `White_Space`. -/
def isBlank (c : Char) : Bool :=
  let n := c.toNat
  (0x09 ≤ n && n ≤ 0x0D) || n == 0x20 || n == 0x85 || n == 0xA0 || n == 0x1680
    || (0x2000 ≤ n && n ≤ 0x200A) || n == 0x2028 || n == 0x2029 || n == 0x202F
    || n == 0x205F || n == 0x3000

/-- The characters from the first that is not blank. -/
def dropBlank (cs : List Char) : List Char :=
  cs.dropWhile isBlank

/-- The characters between the first and the last that are not blank. -/
def trimChars (cs : List Char) : List Char :=
  (dropBlank (dropBlank cs).reverse).reverse

/-- A text without its leading and trailing white space. -/
def trim (s : String) : String :=
  String.ofList (trimChars s.toList)

/-- A text that holds white space only. -/
def isBlankText (s : String) : Bool :=
  s.toList.all isBlank

end Transit.Text
