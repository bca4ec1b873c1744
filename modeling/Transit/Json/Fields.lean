import Transit.Json.Basic
set_option autoImplicit false

/-!
Reading records out of JSON objects. A field is required, optional (absent and `null` are the
same) or has a default (only its absence is made good). A name that is asked for may stand in the
object once; other members are passed over.
-/

namespace Transit.Json

/-- The members of an object. -/
structure Fields where
  members : List (String × Json)
  deriving Inhabited

def fields? : Json → Option Fields
  | .obj members => some ⟨members⟩
  | _ => none

namespace Fields

/-- The member of a name: refused when the name stands in the object more than once. -/
def find? (f : Fields) (name : String) : Option (Option Json) :=
  match f.members.filter (·.1 == name) with
  | [] => some none
  | [(_, j)] => some (some j)
  | _ => none

def required {α : Type} (f : Fields) (read : Json → Option α) (name : String) : Option α := do
  read (← (← f.find? name))

def optional {α : Type} (f : Fields) (read : Json → Option α) (name : String) :
    Option (Option α) := do
  match ← f.find? name with
  | none => some none
  | some .null => some none
  | some j => (read j).map some

def withDefault {α : Type} (f : Fields) (read : Json → Option α) (name : String) (absent : α) :
    Option α := do
  match ← f.find? name with
  | none => some absent
  | some j => read j

end Fields

def readBool : Json → Option Bool
  | .bool b => some b
  | _ => none

def readText : Json → Option String
  | .str s => some s
  | _ => none

/-- A whole number within a range. -/
def readInt (r : Number.Range) : Json → Option Int
  | .int n => if r.holds n then some n else none
  | _ => none

def readInt32 : Json → Option Int := readInt .int32
def readInt64 : Json → Option Int := readInt .int64

def readNat32 (j : Json) : Option Nat := (readInt .nat32 j).map Int.toNat
def readNat64 (j : Json) : Option Nat := (readInt .nat64 j).map Int.toNat

/-- Any number. -/
def readFloat : Json → Option Float
  | .int n => some (Float.ofInt n)
  | .float x => some x
  | _ => none

/-- Any number, rounded to single precision. -/
def readSingle (j : Json) : Option Float32 :=
  (readFloat j).map Float.toFloat32

def readList {α : Type} (read : Json → Option α) : Json → Option (List α)
  | .arr items => items.mapM read
  | _ => none

/-- Insert into an association list sorted by name, in place of an older entry of the name. -/
def insertSorted {α : Type} (name : String) (a : α) :
    List (String × α) → List (String × α)
  | [] => [(name, a)]
  | (k, v) :: rest =>
    if name < k then (name, a) :: (k, v) :: rest
    else if name == k then (name, a) :: rest
    else (k, v) :: insertSorted name a rest

/-- An object as a map sorted by name, the last member of a name counting. -/
def readMap {α : Type} (read : Json → Option α) : Json → Option (List (String × α))
  | .obj members => members.foldlM (fun map (k, j) => do some (insertSorted k (← read j) map)) []
  | _ => none

def readTexts : Json → Option (List String) := readList readText
def readTextMap : Json → Option (List (String × String)) := readMap readText

end Transit.Json
