import Transit.Json.Basic
set_option autoImplicit false

/-!
Writing JSON text, without white space. A floating point number has its shortest decimal, and one
that is not finite has no text of its own: it is written as `null`.
-/

namespace Transit.Json

/-- The last digit of a number in base 16. -/
def hexDigit (n : Nat) : Char :=
  Nat.digitChar (n % 16)

/-- A character inside a string. -/
def escape (c : Char) : List Char :=
  match c with
  | '"' => ['\\', '"']
  | '\\' => ['\\', '\\']
  | '\x08' => ['\\', 'b']
  | '\x0c' => ['\\', 'f']
  | '\n' => ['\\', 'n']
  | '\r' => ['\\', 'r']
  | '\t' => ['\\', 't']
  | c =>
    if c.toNat < 0x20 then ['\\', 'u', '0', '0', hexDigit (c.toNat / 16), hexDigit c.toNat]
    else [c]

def quoted (s : String) : List Char :=
  '"' :: s.toList.flatMap escape ++ ['"']

def floatChars (x : Float) : List Char :=
  match Number.decode x with
  | .finite b => Number.shortestText .double b
  | _ => "null".toList

mutual

/-- The text of a value. -/
def chars : Json → List Char
  | .null => "null".toList
  | .bool true => "true".toList
  | .bool false => "false".toList
  | .int n => (toString n).toList
  | .float x => floatChars x
  | .str s => quoted s
  | .arr [] => ['[', ']']
  | .arr (j :: rest) => '[' :: chars j ++ moreItems rest
  | .obj [] => ['\x7b', '\x7d']
  | .obj ((name, j) :: rest) => '\x7b' :: quoted name ++ ':' :: chars j ++ moreMembers rest

/-- An array after an item. -/
def moreItems : List Json → List Char
  | [] => [']']
  | j :: rest => ',' :: chars j ++ moreItems rest

/-- An object after a member. -/
def moreMembers : List (String × Json) → List Char
  | [] => ['\x7d']
  | (name, j) :: rest => ',' :: quoted name ++ ':' :: chars j ++ moreMembers rest

end

def text (j : Json) : String :=
  String.ofList j.chars

/-- Values that are written as JSON. -/
class Encoded (α : Type) where
  toJson : α → Json

instance : Encoded Unit := ⟨fun _ => .null⟩

end Transit.Json
