import Transit.Number.Text
set_option autoImplicit false

/-!
JSON values. Whole numbers of up to 64 bits are kept apart from floating point numbers, and an
object keeps its members in the order in which they stand, repeated names included.
-/

namespace Transit

inductive Json
  | null
  | bool (value : Bool)
  | int (value : Int)
  | float (value : Float)
  | str (value : String)
  | arr (items : List Json)
  | obj (members : List (String × Json))
  deriving Inhabited

namespace Json

/-- `null` for an absent value. -/
def ofOption {α : Type} (write : α → Json) : Option α → Json
  | none => .null
  | some a => write a

def ofList {α : Type} (write : α → Json) (xs : List α) : Json :=
  .arr (xs.map write)

def ofTexts (xs : List String) : Json :=
  .arr (xs.map .str)

/-- An object that maps names to values. -/
def ofMap {α : Type} (write : α → Json) (xs : List (String × α)) : Json :=
  .obj (xs.map fun (k, v) => (k, write v))

/-- The value that the last member of this name has in an object. -/
def member? (name : String) : Json → Option Json
  | .obj members => (members.reverse.lookup name)
  | _ => none

mutual

/-- Every object with the last of several members of one name, in the first one's place. -/
def lastWins : Json → Json
  | .arr items => .arr (lastWinsItems items)
  | .obj members => .obj (lastWinsMembers members)
  | j => j

def lastWinsItems : List Json → List Json
  | [] => []
  | j :: rest => lastWins j :: lastWinsItems rest

def lastWinsMembers : List (String × Json) → List (String × Json)
  | [] => []
  | (k, v) :: rest =>
    let rest := lastWinsMembers rest
    match rest.lookup k with
    | some later => (k, later) :: rest.filter (·.1 != k)
    | none => (k, lastWins v) :: rest

end

end Json

end Transit
